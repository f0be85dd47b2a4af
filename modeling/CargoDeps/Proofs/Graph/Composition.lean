import CargoDeps.Proofs.Graph.Representation
import CargoDeps.Proofs.Graph.Sample

namespace CargoDeps.PackageGraph

/-!
# Restrictions one after the other

To restrict a graph twice is to restrict it once, to the ids that both restrictions ask for and the
edges that both choose.  A graph is its own restriction to all of its ids as long as the members of
its workspace are packages, which holds of every graph that comes of a construction.
-/

variable {graph : PackageGraph} {ids others : List PackageId} {chosen also : EdgePredicate}

/-- Restrictions compose: what both ask for is left. -/
theorem restrict_restrict
    {both : List PackageId}
    (inBoth : ∀ id, id ∈ both ↔ id ∈ ids ∧ id ∈ others) :
    (graph.restrict ids chosen).restrict others also =
      graph.restrict both fun edge => chosen edge && also edge := by
  apply eq_of_parts
  · rw [packages_restrict, packages_restrict, packages_restrict, List.filter_filter]
    refine List.filter_congr fun package _ => ?_
    simp only [inBoth, Bool.decide_and, Bool.and_comm]
  · rw [edges_restrict, edges_restrict, edges_restrict, List.filter_filter]
    refine List.filter_congr fun edge _ => ?_
    rw [Bool.eq_iff_iff]
    simp only [inBoth, Bool.and_eq_true, decide_eq_true_eq]
    tauto
  · rw [root_restrict, root_restrict, root_restrict]
  · rw [members_restrict, members_restrict, members_restrict, List.filter_filter]
    refine List.filter_congr fun id _ => ?_
    simp only [inBoth, Bool.decide_and, Bool.and_comm]

/-- A restriction that asks for all packages and all members of the workspace, and that chooses every
edge, takes nothing away. -/
theorem restrict_eq_self
    (known : graph.ids ⊆ ids)
    (members : graph.workspace.members ⊆ ids) :
    graph.restrict ids .everything = graph := by
  apply eq_of_parts
  · refine List.filter_eq_self.mpr fun package member => ?_
    exact decide_eq_true (known (List.mem_map_of_mem member))
  · refine List.filter_eq_self.mpr fun edge member => ?_
    simp only [known (graph.source_mem edge member), known (graph.target_mem edge member),
      EdgePredicate.everything, decide_true, Bool.and_self]
  · exact root_restrict
  · exact List.filter_eq_self.mpr fun id member => decide_eq_true (members member)

/-- The members that a graph keeps of its input are packages. -/
theorem Keeps.members_subset
    {records : List PackageRecord}
    {input : List RawEdge}
    {built : PackageGraph}
    (keeps : Keeps records input built graph) :
    graph.workspace.members ⊆ graph.ids := by
  rw [keeps.members_eq]
  exact List.map_subset Package.id (List.filter_subset_self graph.packages)

/--
Two restrictions make the same graph as one that asks for the ids of both and chooses the edges that
both choose: the same packages, edges and indexes, and the same workspace.  If all members of the
workspace are packages, to ask for all ids and every edge gives the graph itself; and they are, in a
graph that was built and in all that comes of it by cutting it down.
-/
theorem restrict_composes
    (graph : PackageGraph)
    (ids others : List PackageId)
    (chosen also : EdgePredicate) :
    (∀ both : List PackageId,
      (∀ id, id ∈ both ↔ id ∈ ids ∧ id ∈ others) →
      (graph.restrict ids chosen).restrict others also =
        graph.restrict both fun edge => chosen edge && also edge) ∧
    (∀ all : List PackageId,
      (∀ id, id ∈ all ↔ id ∈ graph.ids) →
      graph.workspace.members ⊆ graph.ids →
      graph.restrict all .everything = graph) ∧
    ∀ records input root built,
      build records input root = .ok built →
      built.Descends graph →
      graph.workspace.members ⊆ graph.ids := by
  refine ⟨fun both inBoth => restrict_restrict inBoth, ?_, ?_⟩
  · intro all inAll members
    have known : graph.ids ⊆ all :=
      fun id isPackage => (inAll id).mpr isPackage
    exact restrict_eq_self known (List.Subset.trans members known)
  · intro records input root built builds descends
    exact (keeps_of_descends builds descends).members_subset

/-- Of four edges between three packages of one name, one is left where first the build dependencies
and then the development dependencies go, and the first restriction asks for a package that there is
not.  The name is that of `lib` then, the last member that is left.  Restricted to all of its packages,
the graph is as before. -/
theorem restrict_composes_parallel :
    ∃ built, build Parallel.records Parallel.edges none = .ok built ∧
      let part := built.restrict [Paired.tool, Paired.lib, Paired.app] fun edge => edge.kind ≠ .build
      let rest := part.restrict [Paired.app, Paired.core, Paired.lib] fun edge =>
        edge.kind ≠ .development
      (∀ id,
        id ∈ [Paired.app, Paired.lib] ↔
          id ∈ [Paired.tool, Paired.lib, Paired.app] ∧
            id ∈ [Paired.app, Paired.core, Paired.lib]) ∧
      rest.edges.map Edge.index = [0] ∧
      built.memberNamed? "sample" = some Paired.core ∧
      rest.memberNamed? "sample" = some Paired.lib ∧
      rest =
        built.restrict [Paired.app, Paired.lib] (fun edge =>
          edge.kind ≠ .build && edge.kind ≠ .development) ∧
      (∀ id, id ∈ [Paired.core, Paired.lib, Paired.app] ↔ id ∈ built.ids) ∧
      built.Descends built ∧
      built.workspace.members ⊆ built.ids ∧
      built.restrict [Paired.core, Paired.lib, Paired.app] .everything = built := by
  have told :
      ((build Parallel.records Parallel.edges none).toOption.map fun built =>
        let part := built.restrict [Paired.tool, Paired.lib, Paired.app] fun edge =>
          edge.kind ≠ .build
        let rest := part.restrict [Paired.app, Paired.core, Paired.lib] fun edge =>
          edge.kind ≠ .development
        (rest.edges.map Edge.index, built.memberNamed? "sample", rest.memberNamed? "sample",
          built.ids)) =
        some ([0], some Paired.core, some Paired.lib, [Paired.app, Paired.lib, Paired.core]) := by
    decide +kernel
  cases builds : build Parallel.records Parallel.edges none with
  | error error =>
      simp [builds, Except.toOption] at told
  | ok built =>
      simp only [builds, Except.toOption, Option.map_some, Option.some.injEq, Prod.mk.injEq] at told
      obtain ⟨indexes, named, stillNamed, ids⟩ := told
      have inBoth (id : PackageId) :
          id ∈ [Paired.app, Paired.lib] ↔
            id ∈ [Paired.tool, Paired.lib, Paired.app] ∧
              id ∈ [Paired.app, Paired.core, Paired.lib] := by
        have different : Paired.tool ≠ Paired.app ∧ Paired.tool ≠ Paired.core ∧
            Paired.tool ≠ Paired.lib := by
          decide
        simp only [List.mem_cons, List.not_mem_nil, or_false]
        grind
      have inAll (id : PackageId) :
          id ∈ [Paired.core, Paired.lib, Paired.app] ↔ id ∈ built.ids := by
        simp only [ids, List.mem_cons, List.not_mem_nil, or_false]
        tauto
      obtain ⟨composed, whole, areKnown⟩ :=
        restrict_composes built [Paired.tool, Paired.lib, Paired.app]
          [Paired.app, Paired.core, Paired.lib] (fun edge => edge.kind ≠ .build)
          (fun edge => edge.kind ≠ .development)
      have members : built.workspace.members ⊆ built.ids :=
        areKnown _ _ none built builds .origin
      exact ⟨built, rfl, inBoth, indexes, named, stillNamed, composed _ inBoth, inAll, .origin,
        members, whole _ inAll members⟩

end CargoDeps.PackageGraph
