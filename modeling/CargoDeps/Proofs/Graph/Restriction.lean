import CargoDeps.Graph.Basic

namespace CargoDeps.PackageGraph

/-!
# What a restriction keeps

A restriction holds the packages of the graph that it is asked for, and the chosen edges of the
graph between two packages that it is asked for.  All else that a graph holds follows from these and
from its workspace.
-/

variable {graph : PackageGraph} {ids : List PackageId} {chosen : EdgePredicate}

theorem packages_restrict :
    (graph.restrict ids chosen).packages =
      graph.packages.filter fun package => package.id ∈ ids :=
  rfl

theorem edges_restrict :
    (graph.restrict ids chosen).edges =
      graph.edges.filter fun edge => edge.source ∈ ids && edge.target ∈ ids && chosen edge :=
  rfl

theorem root_restrict :
    (graph.restrict ids chosen).workspace.root = graph.workspace.root :=
  rfl

theorem members_restrict :
    (graph.restrict ids chosen).workspace.members =
      graph.workspace.members.filter fun id => id ∈ ids :=
  rfl

theorem mem_packages_restrict
    {package : Package} :
    package ∈ (graph.restrict ids chosen).packages ↔
      package ∈ graph.packages ∧ package.id ∈ ids := by
  simp [packages_restrict]

theorem mem_edges_restrict
    {edge : Edge} :
    edge ∈ (graph.restrict ids chosen).edges ↔
      edge ∈ graph.edges ∧
        edge.source ∈ ids ∧
          edge.target ∈ ids ∧
            chosen edge = true := by
  simp [edges_restrict, and_assoc]

/-- The packages keep the order of the graph. -/
theorem packages_restrict_sublist
    (ids : List PackageId)
    (chosen : EdgePredicate) :
    (graph.restrict ids chosen).packages.Sublist graph.packages :=
  List.filter_sublist

/-- The ids keep the order of the graph. -/
theorem ids_restrict :
    (graph.restrict ids chosen).ids = graph.ids.filter (· ∈ ids) := by
  simp only [PackageGraph.ids, packages_restrict, List.filter_map, Function.comp_def]

theorem mem_ids_restrict
    {id : PackageId} :
    id ∈ (graph.restrict ids chosen).ids ↔ id ∈ graph.ids ∧ id ∈ ids := by
  simp [ids_restrict]

/-! ### Equal graphs -/

/-- The indexes of a graph are filled from its edges, so graphs with the same packages, edges and
workspace are the same. -/
theorem eq_of_parts
    {first second : PackageGraph}
    (packages : first.packages = second.packages)
    (edges : first.edges = second.edges)
    (root : first.workspace.root = second.workspace.root)
    (members : first.workspace.members = second.workspace.members) :
    first = second := by
  obtain ⟨_, _, ⟨_, _⟩, _, _, _, _, _, _, _, rfl, rfl, rfl⟩ := first
  obtain ⟨_, _, ⟨_, _⟩, _, _, _, _, _, _, _, rfl, rfl, rfl⟩ := second
  cases packages
  cases edges
  cases root
  cases members
  rfl

/-- Of the ids that a restriction is asked for, neither order nor repetition matters. -/
theorem restrict_congr
    {others : List PackageId}
    (same : ∀ id, id ∈ ids ↔ id ∈ others) :
    graph.restrict ids chosen = graph.restrict others chosen := by
  apply eq_of_parts
  · simp only [packages_restrict, same]
  · simp only [edges_restrict, same]
  · rfl
  · simp only [members_restrict, same]

end CargoDeps.PackageGraph
