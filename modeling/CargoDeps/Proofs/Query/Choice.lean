import CargoDeps.Query

namespace CargoDeps

/-!
# Choices that agree on the edges of a graph

Queries, dependence and cycles put only edges of the graph to the choice.  So two choices that agree
on these edges have the same results, whatever they make of others.
-/

/-- Two choices make the same of each of some edges. -/
def EdgePredicate.AgreeOn (edges : List Edge) (chosen other : EdgePredicate) : Prop :=
  ∀ edge ∈ edges, chosen edge = other edge

namespace PackageGraph

variable {graph : PackageGraph} {chosen other : EdgePredicate}

theorem along_congr
    (agree : EdgePredicate.AgreeOn graph.edges chosen other) :
    graph.along chosen = graph.along other := by
  have leaving : ∀ id, (graph.edgesFrom id).filter chosen = (graph.edgesFrom id).filter other :=
    fun id => List.filter_congr fun edge member => agree edge (mem_edgesFrom.mp member).1
  have entering : ∀ id, (graph.edgesTo id).filter chosen = (graph.edgesTo id).filter other :=
    fun id => List.filter_congr fun edge member => agree edge (mem_edgesTo.mp member).1
  simp only [along, leaving, entering]

theorem view_congr
    (agree : EdgePredicate.AgreeOn graph.edges chosen other) :
    graph.view chosen = graph.view other := by
  have leaving : ∀ id target,
      ((graph.edgesFrom id).any fun edge => edge.target = target && chosen edge) =
        (graph.edgesFrom id).any fun edge => edge.target = target && other edge := by
    intro id target
    rw [Bool.eq_iff_iff, List.any_eq_true, List.any_eq_true]
    refine exists_congr fun edge => and_congr_right fun member => ?_
    rw [agree edge (mem_edgesFrom.mp member).1]
  have entering : ∀ id source,
      ((graph.edgesTo id).any fun edge => edge.source = source && chosen edge) =
        (graph.edgesTo id).any fun edge => edge.source = source && other edge := by
    intro id source
    rw [Bool.eq_iff_iff, List.any_eq_true, List.any_eq_true]
    refine exists_congr fun edge => and_congr_right fun member => ?_
    rw [agree edge (mem_edgesTo.mp member).1]
  simp only [view, leaving, entering]

theorem ids_reachFrom_congr
    (agree : EdgePredicate.AgreeOn graph.edges chosen other)
    (roots : List PackageId)
    (direction : Direction) :
    (graph.reachFrom roots direction chosen).ids = (graph.reachFrom roots direction other).ids := by
  simp only [reachFrom, towards, along_congr agree]

theorem dependsOn_congr
    (agree : EdgePredicate.AgreeOn graph.edges chosen other)
    (source target : PackageId) :
    graph.dependsOn source target chosen = graph.dependsOn source target other := by
  simp only [dependsOn, along_congr agree]

theorem isCyclic_congr
    (agree : EdgePredicate.AgreeOn graph.edges chosen other)
    (first second : PackageId) :
    graph.isCyclic first second chosen = graph.isCyclic first second other := by
  rw [isCyclic, isCyclic, dependsOn_congr agree, dependsOn_congr agree]

theorem findCycles_congr
    (agree : EdgePredicate.AgreeOn graph.edges chosen other) :
    graph.findCycles chosen = graph.findCycles other := by
  have links : ∀ members : List PackageId,
      (graph.edges.filter fun edge =>
          edge.source ∈ members && edge.target ∈ members && chosen edge) =
        graph.edges.filter fun edge =>
          edge.source ∈ members && edge.target ∈ members && other edge := by
    intro members
    refine List.filter_congr fun edge member => ?_
    rw [agree edge member]
  have sameCycle : Cycle.ofComponent? graph chosen = Cycle.ofComponent? graph other := by
    funext members
    simp only [Cycle.ofComponent?, view_congr agree, links]
  rw [findCycles, findCycles, view_congr agree, sameCycle]

end PackageGraph

end CargoDeps
