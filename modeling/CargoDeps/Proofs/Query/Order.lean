import CargoDeps.Proofs.Digraph.Condensation
import CargoDeps.Proofs.Graph.Restriction
import CargoDeps.Proofs.Query.Cycle
import CargoDeps.Proofs.Query.Reach
import CargoDeps.Query

namespace CargoDeps.QueryResult

/-!
# Dependency order

The order of a result lists each package that was reached once.  It goes class by class: the
packages that depend on each other stand together in the order of the graph, and any other package
stands before those that it depends on.
-/

/-- A result of queries on a graph, or of such results put together. -/
inductive Obtained : QueryResult → Prop
  | query
      {graph : PackageGraph}
      {roots : List PackageId}
      {direction : Direction}
      {chosen : EdgePredicate}
      {result : QueryResult} :
      graph.query roots direction chosen = .ok result →
      Obtained result
  | union
      {first second : QueryResult} :
      Obtained first →
      Obtained second →
      second.graph = first.graph →
      Obtained (first.union second)
  | intersection
      {first second : QueryResult} :
      Obtained first →
      Obtained second →
      second.graph = first.graph →
      Obtained (first.intersection second)

namespace Obtained

variable {result : QueryResult}

theorem ids_subset
    (obtained : result.Obtained) :
    result.ids ⊆ result.graph.ids := by
  induction obtained with
  | query found =>
      obtain ⟨known, rfl⟩ := PackageGraph.query_eq_ok_iff.mp found
      exact PackageGraph.ids_reachFrom_subset known
  | union _ _ sameGraph firstKnown secondKnown =>
      intro id member
      rcases List.mem_append.mp (Sequence.mem_distinct.mp member) with inFirst | inSecond
      · exact firstKnown inFirst
      · exact sameGraph ▸ secondKnown inSecond
  | intersection _ _ _ firstKnown _ =>
      exact List.Subset.trans (List.filter_subset_self _) firstKnown

theorem nodup_ids
    (obtained : result.Obtained) :
    result.ids.Nodup := by
  induction obtained with
  | query found =>
      obtain ⟨known, rfl⟩ := PackageGraph.query_eq_ok_iff.mp found
      exact PackageGraph.nodup_ids_reachFrom known
  | union =>
      exact Sequence.nodup_distinct _
  | intersection _ _ _ firstNodup _ =>
      exact firstNodup.filter _

/-- The graph of a result holds the packages that were reached. -/
theorem perm_ids_subgraph
    (obtained : result.Obtained) :
    result.subgraph.ids.Perm result.ids := by
  apply (List.perm_ext_iff_of_nodup result.subgraph.distinct_ids obtained.nodup_ids).mpr
  intro id
  rw [← PackageGraph.ids, subgraph, PackageGraph.mem_ids_restrict]
  exact and_iff_right_of_imp fun reached => obtained.ids_subset reached

end Obtained

/-! ### The order of a graph -/

section

variable {graph : PackageGraph} {members : Set PackageId}

theorem perm_dependencyOrder :
    (dependencyOrder graph).Perm graph.ids :=
  Digraph.perm_flatMap_components PackageGraph.sound_view graph.distinct_ids

/-- Two packages lie in one component exactly if they are of one class. -/
theorem inComponent_iff
    {position : Nat}
    {first second : PackageId}
    (firstIn : (graph.view .everything).InComponent position first) :
    (graph.view .everything).InComponent position second ↔
      ∃ members, graph.IsClass .everything members ∧ first ∈ members ∧ second ∈ members := by
  rw [← firstIn.mutual_iff PackageGraph.sound_view, PackageGraph.mutual_view]
  constructor
  · intro both
    have known : first ∈ graph.ids := firstIn.mem_nodes PackageGraph.sound_view
    exact ⟨{id | graph.Leads .everything first id ∧ graph.Leads .everything id first},
      ⟨first, known, fun _ => Iff.rfl⟩, ⟨.refl, .refl⟩, both⟩
  · intro together
    obtain ⟨members, isClass, firstMember, secondMember⟩ := together
    exact ⟨isClass.leads firstMember secondMember, isClass.leads secondMember firstMember⟩

/-- A package stands before those it depends on, unless they are of one class. -/
theorem sublist_dependencyOrder
    {edge : Edge}
    (member : edge ∈ graph.edges)
    (apart :
      ¬∃ members,
        graph.IsClass .everything members ∧ edge.source ∈ members ∧ edge.target ∈ members) :
    [edge.source, edge.target].Sublist (dependencyOrder graph) := by
  have sound : (graph.view .everything).Sound := PackageGraph.sound_view
  obtain ⟨sources, sourceFound, sourceMember⟩ :=
    Digraph.inComponent_componentOf sound (graph.source_mem edge member)
  obtain ⟨targets, targetFound, targetMember⟩ :=
    Digraph.inComponent_componentOf sound (graph.target_mem edge member)
  have sourceIn : (graph.view .everything).InComponent _ edge.source :=
    ⟨sources, sourceFound, sourceMember⟩
  have targetIn : (graph.view .everything).InComponent _ edge.target :=
    ⟨targets, targetFound, targetMember⟩
  have different :
      Digraph.componentOf (graph.view .everything).components edge.source ≠
        Digraph.componentOf (graph.view .everything).components edge.target := by
    intro same
    exact apart ((inComponent_iff sourceIn).mp (same ▸ targetIn))
  have arrow : Digraph.Arrow (graph.view .everything).next edge.source edge.target :=
    PackageGraph.mem_next_view.mpr ⟨edge, member, rfl, rfl, rfl⟩
  have inOrder :=
    Digraph.sublist_topologicalOrder (Digraph.sound_condensation sound) List.nodup_range
      Digraph.nodup_next_condensation (Digraph.acyclic_condensation sound)
      (Digraph.mem_nodes_condensation.mpr sourceIn.lt_length)
      ((Digraph.arrow_condensation sound).mpr
        ⟨different, edge.source, edge.target, sourceIn, targetIn, arrow⟩)
  -- The positions of the two components are in order, hence so are the blocks in their places.
  have blocks := inOrder.flatMap fun position =>
    ((graph.view .everything).components[position]?).getD []
  simp only [List.flatMap_cons, List.flatMap_nil, List.append_nil, sourceFound, targetFound,
    Option.getD_some] at blocks
  have ends : [edge.source, edge.target].Sublist (sources ++ targets) :=
    (List.singleton_sublist.mpr sourceMember).append (List.singleton_sublist.mpr targetMember)
  exact ends.trans blocks

/-- The packages of one class stand together, in the order of the graph. -/
theorem exists_block
    (isClass : graph.IsClass .everything members) :
    ∃ before block after,
      dependencyOrder graph = before ++ block ++ after ∧
        {id | id ∈ block} = members ∧
          block.Sublist graph.ids := by
  have sound : (graph.view .everything).Sound := PackageGraph.sound_view
  obtain ⟨block, listed, holds⟩ := PackageGraph.exists_component_of_isClass isClass
  obtain ⟨position, bound, found⟩ := List.getElem_of_mem listed
  have ordered :
      position ∈
        ((graph.view .everything).condensation
          (graph.view .everything).components).topologicalOrder :=
    (Digraph.perm_positions sound).mem_iff.mpr (List.mem_range.mpr bound)
  obtain ⟨earlier, later, shape⟩ := List.append_of_mem ordered
  let membersAt (position : Nat) : List PackageId :=
    ((graph.view .everything).components[position]?).getD []
  refine ⟨earlier.flatMap membersAt, block, later.flatMap membersAt, ?_, holds,
    (Digraph.isComponent_of_mem_components sound listed).sublist⟩
  simp only [dependencyOrder, shape, List.flatMap_append, List.flatMap_cons, membersAt,
    List.getElem?_eq_getElem bound, found, Option.getD_some, List.append_assoc]

end

/--
What the order of a result has to be.

It lists each package that was reached once.  An edge of the result leads from an earlier package to
a later one, unless its ends are of one class.  Each class stands together, in the order of the
graph.
-/
structure IsDependencyOrder
    (result : QueryResult)
    (order : List PackageId) : Prop where
  perm : order.Perm result.ids
  before :
    ∀ edge ∈ result.subgraph.edges,
      (¬∃ members,
        result.subgraph.IsClass .everything members ∧
          edge.source ∈ members ∧
            edge.target ∈ members) →
      [edge.source, edge.target].Sublist order
  together :
    ∀ members,
      result.subgraph.IsClass .everything members →
      ∃ earlier block later,
        order = earlier ++ block ++ later ∧
          {id | id ∈ block} = members ∧
            block.Sublist result.graph.ids

/-- The packages of a result are put in dependency order, and the opposite order is the same list
from its end.  The layers take in all classes, so no class is left over. -/
theorem orderedIds_isDependencyOrder
    (result : QueryResult)
    (obtained : result.Obtained) :
    let view := result.subgraph.view .everything
    (view.condensation view.components).topologicalOrder.Perm
      (List.range view.components.length) ∧
    result.IsDependencyOrder (result.orderedIds .forward) ∧
    result.orderedIds .reverse = (result.orderedIds .forward).reverse := by
  intro view
  refine ⟨Digraph.perm_positions PackageGraph.sound_view, ⟨?_, ?_, ?_⟩, rfl⟩
  · exact perm_dependencyOrder.trans obtained.perm_ids_subgraph
  · intro edge member apart
    exact sublist_dependencyOrder member apart
  · intro members isClass
    obtain ⟨earlier, block, later, shape, holds, inOrder⟩ := exists_block isClass
    refine ⟨earlier, block, later, shape, holds, inOrder.trans ?_⟩
    rw [subgraph, PackageGraph.ids_restrict]
    exact List.filter_sublist

/-- What two queries reach together: `app` stands first, and `tool` behind the two packages that
depend on each other and on it. -/
theorem orderedIds_paired :
    let result :=
      (Paired.sample.reachFrom [Paired.core] .forward Paired.firm).union
        (Paired.sample.reachFrom [Paired.app] .forward Paired.firm)
    result.Obtained ∧
      result.IsDependencyOrder [Paired.app, Paired.core, Paired.lib, Paired.tool] ∧
      result.orderedIds .reverse = [Paired.tool, Paired.lib, Paired.core, Paired.app] := by
  intro result
  have obtained : result.Obtained := by
    apply Obtained.union
    · exact .query (PackageGraph.query_eq_ok_iff.mpr ⟨by decide, rfl⟩)
    · exact .query (PackageGraph.query_eq_ok_iff.mpr ⟨by decide, rfl⟩)
    · rfl
  have ordered :
      result.orderedIds .forward = [Paired.app, Paired.core, Paired.lib, Paired.tool] := by
    decide +kernel
  obtain ⟨-, isOrder, turned⟩ := orderedIds_isDependencyOrder result obtained
  rw [ordered] at isOrder turned
  exact ⟨obtained, isOrder, turned⟩

end CargoDeps.QueryResult
