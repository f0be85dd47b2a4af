import CargoDeps.Proofs.Feature.Activation
import CargoDeps.Proofs.Feature.Part
import CargoDeps.Proofs.Order
import CargoDeps.Proofs.Query.Subgraph

namespace CargoDeps.PackageGraph

/-!
# To filter while activating is to filter first

An activation that follows chosen edges agrees with one that follows all edges of the part of the
graph that the chosen edges reach from the package: both meet a cycle, or both activate the same
packages.
-/

variable {graph part : PackageGraph} {chosen : EdgePredicate} {package : PackageId}
  {requested : List String}

/-- What chosen edges reach from some packages is a closed part of the graph. -/
theorem closedPart_subgraph
    {roots : List PackageId}
    (known : roots ⊆ graph.ids) :
    graph.ClosedPart chosen (graph.reachFrom roots .forward chosen).subgraph where
  packages := by
    intro package member
    exact (mem_packages_restrict.mp member).1
  edges := by
    intro edge
    rw [mem_edges_subgraph known, mem_ids_subgraph known, Direction.nearEnd,
      and_comm (a := chosen edge = true)]

namespace ClosedPart

/-- Chosen edges of the graph and all edges of a closed part activate the same packages, unless both
meet a cycle. -/
theorem activatePackages_agree
    (closed : graph.ClosedPart chosen part)
    (unmarked : graph.Unmarked)
    (kept : package ∈ part.ids)
    (listed : ∀ feature ∈ requested, graph.Defines package feature) :
    ((∃ cycle,
        graph.featureGraph.activatePackages package requested chosen =
          .error (.walk (.cycle cycle))) ∧
      ∃ cycle,
        part.featureGraph.activatePackages package requested .everything =
          .error (.walk (.cycle cycle))) ∨
      ∃ packages,
        graph.featureGraph.activatePackages package requested chosen = .ok packages ∧
          part.featureGraph.activatePackages package requested .everything = .ok packages := by
  have known : package ∈ graph.ids := closed.ids_subset kept
  have listedPart : ∀ feature ∈ requested, part.Defines package feature := by
    intro feature asked
    exact closed.defines_iff.mpr ⟨kept, listed feature asked⟩
  have accepted : ∀ feature ∈ requested, graph.Accepts package feature := by
    intro feature asked
    exact unmarked.accepts (Or.inl (listed feature asked))
  have acceptedPart : ∀ feature ∈ requested, part.Accepts package feature := by
    intro feature asked
    exact (closed.unmarked unmarked).accepts (Or.inl (listedPart feature asked))
  have startsKnown : ∀ start ∈ activationStarts package requested, part.Knows start := by
    intro start isStart
    exact mem_nodes_iff.mp (activationStarts_subset kept acceptedPart isStart)
  have sameTurns :
      (∃ cycle,
        part.featureGraph.activatePackages package requested .everything =
          .error (.walk (.cycle cycle))) ↔
        ∃ cycle,
          graph.featureGraph.activatePackages package requested chosen =
            .error (.walk (.cycle cycle)) := by
    rw [activatePackages_cycle_iff known accepted, activatePackages_cycle_iff kept acceptedPart]
    apply exists_congr
    intro start
    apply and_congr_right
    intro isStart
    exact closed.exists_turn_iff unmarked (startsKnown start isStart)
  by_cases meets :
      ∃ cycle,
        graph.featureGraph.activatePackages package requested chosen =
          .error (.walk (.cycle cycle))
  · exact Or.inl ⟨meets, sameTurns.mpr meets⟩
  · obtain ⟨packages, returns, reached⟩ :=
      (activatePackages_ok_or_cycle known accepted).resolve_right meets
    obtain ⟨packagesPart, returnsPart, reachedPart⟩ :=
      (activatePackages_ok_or_cycle kept acceptedPart).resolve_right (mt sameTurns.mp meets)
    refine Or.inr ⟨_, returns, ?_⟩
    rw [returnsPart]
    apply congrArg Except.ok
    apply PackageId.sorted_distinct_eq
    intro id
    rw [reached, reachedPart]
    apply exists_congr
    intro start
    apply and_congr_right
    intro isStart
    exact closed.exists_needs_iff unmarked (startsKnown start isStart)

end ClosedPart

/--
To activate features of a package along chosen edges is to query what the chosen edges reach from
the package and to activate the features there along all edges.  Both meet a cycle or both give the
same packages.

The features are those of the table of the package, and neither features nor dependencies have names
with the mark of an optional dependency.
-/
theorem activatePackages_subgraph
    (graph : PackageGraph)
    (package : PackageId)
    (requested : List String)
    (chosen : EdgePredicate)
    (known : package ∈ graph.ids)
    (unmarked : graph.Unmarked)
    (listed : ∀ feature ∈ requested, graph.Defines package feature) :
    ∃ result,
      graph.query [package] .forward chosen = .ok result ∧
        (((∃ cycle,
            graph.featureGraph.activatePackages package requested chosen =
              .error (.walk (.cycle cycle))) ∧
          ∃ cycle,
            result.subgraph.featureGraph.activatePackages package requested .everything =
              .error (.walk (.cycle cycle))) ∨
          ∃ packages,
            graph.featureGraph.activatePackages package requested chosen = .ok packages ∧
              result.subgraph.featureGraph.activatePackages package requested .everything =
                .ok packages) := by
  have rootsKnown : [package] ⊆ graph.ids := List.cons_subset.mpr ⟨known, List.nil_subset _⟩
  have closed : graph.ClosedPart chosen (graph.reachFrom [package] .forward chosen).subgraph :=
    closedPart_subgraph rootsKnown
  have kept : package ∈ (graph.reachFrom [package] .forward chosen).subgraph.ids := by
    apply mem_ids_restrict.mpr
    exact ⟨known, (mem_ids_reachFrom rootsKnown).mpr ⟨package, List.mem_singleton_self _, .refl⟩⟩
  exact ⟨_, query_eq_ok_iff.mpr ⟨rootsKnown, rfl⟩,
    closed.activatePackages_agree unmarked kept listed⟩

/-- Without its optional dependency, a package activates the same with `std` in the whole graph and
in the part that the other edges reach, although the node of the dependency is lost there. -/
theorem activatePackages_logging :
    Logging.server ∈ Logging.sample.ids ∧
      Logging.sample.Unmarked ∧
      (∀ feature ∈ ["std"], Logging.sample.Defines Logging.server feature) ∧
      ∃ result,
        Logging.sample.query [Logging.server] .forward Paired.firm = .ok result ∧
          .dependency Logging.server "log" ∉ result.subgraph.featureGraph.nodes ∧
          Logging.sample.featureGraph.activatePackages Logging.server ["std"] Paired.firm =
            .ok [Logging.core, Logging.server] ∧
          result.subgraph.featureGraph.activatePackages Logging.server ["std"] .everything =
            .ok [Logging.core, Logging.server] := by
  have known : Logging.server ∈ Logging.sample.ids := by
    decide
  have unmarked : Logging.sample.Unmarked := by
    constructor
    · simp only [← FeatureId.isDependencyName_iff]
      decide +kernel
    · simp only [← FeatureId.isDependencyName_iff]
      decide +kernel
  have listed : ∀ feature ∈ ["std"], Logging.sample.Defines Logging.server feature := by
    intro feature member
    obtain rfl : feature = "std" := List.mem_singleton.mp member
    exact ⟨_, List.mem_cons_self, rfl, by decide⟩
  have returns :
      Logging.sample.featureGraph.activatePackages Logging.server ["std"] Paired.firm =
        .ok [Logging.core, Logging.server] := by
    decide +kernel
  obtain ⟨result, found, agree⟩ :=
    activatePackages_subgraph Logging.sample Logging.server ["std"] Paired.firm known unmarked
      listed
  obtain ⟨-, rfl⟩ := query_eq_ok_iff.mp found
  refine ⟨known, unmarked, listed, _, found, by decide +kernel, returns, ?_⟩
  rcases agree with ⟨⟨cycle, fails⟩, -⟩ | ⟨packages, returnsHere, returnsPart⟩
  · cases returns.symm.trans fails
  · cases returns.symm.trans returnsHere
    exact returnsPart

end CargoDeps.PackageGraph
