import CargoDeps.Dependency.Edge

namespace CargoDeps

/-!
# Edges between two packages

A multigraph keeps the edges between each two packages in a bundle of their own, where each edge is
known by its position in the input.
-/

/-- The edges between each two packages that some edge joins. -/
structure Multigraph where
  bundles : List ((PackageId × PackageId) × List Edge)

namespace Multigraph

/-- The multigraph without edges. -/
def empty : Multigraph := ⟨[]⟩

/-- Put an edge in the place of the one at its position, or at the end of the bundle if there is
none. -/
def put (edge : Edge) : List Edge → List Edge
  | [] => [edge]
  | other :: rest =>
      if other.index = edge.index then
        edge :: rest
      else
        other :: put edge rest

/-- Put an edge in the bundle of its ends. -/
def addTo (edge : Edge) :
    List ((PackageId × PackageId) × List Edge) → List ((PackageId × PackageId) × List Edge)
  | [] => [((edge.source, edge.target), put edge [])]
  | (ends, bundle) :: rest =>
      if ends = (edge.source, edge.target) then
        (ends, put edge bundle) :: rest
      else
        (ends, bundle) :: addTo edge rest

/-- Add an edge. -/
def add (multigraph : Multigraph) (edge : Edge) : Multigraph :=
  ⟨addTo edge multigraph.bundles⟩

/-- The multigraph of a list of edges. -/
def ofEdges (edges : List Edge) : Multigraph :=
  edges.foldl add empty

/-- The bundle of edges from one package to another, if there is any edge. -/
def bundle? (multigraph : Multigraph) (source target : PackageId) : Option (List Edge) :=
  multigraph.bundles.lookup (source, target)

/-- The edges from one package to another. -/
def between (multigraph : Multigraph) (source target : PackageId) : List Edge :=
  (multigraph.bundle? source target).getD []

/-- Whether some edge leads from one package to another. -/
def joins (multigraph : Multigraph) (source target : PackageId) : Bool :=
  (multigraph.bundle? source target).isSome

theorem put_of_forall_ne {edge : Edge} {bundle : List Edge}
    (isNew : ∀ other ∈ bundle, other.index ≠ edge.index) : put edge bundle = bundle ++ [edge] := by
  induction bundle with
  | nil => rfl
  | cons other rest inductionHypothesis =>
      obtain ⟨notHere, notLater⟩ := List.forall_mem_cons.mp isNew
      rw [put, if_neg notHere, inductionHypothesis notLater, List.cons_append]

theorem bundle?_add (multigraph : Multigraph) (edge : Edge) (source target : PackageId) :
    (multigraph.add edge).bundle? source target =
      if edge.source = source ∧ edge.target = target then
        some (put edge (multigraph.between source target))
      else
        multigraph.bundle? source target := by
  obtain ⟨bundles⟩ := multigraph
  have ends_iff :
      edge.source = source ∧ edge.target = target ↔
        (source, target) = (edge.source, edge.target) := by
    simp [eq_comm]
  simp only [ends_iff]
  induction bundles with
  | nil =>
      by_cases same : (source, target) = (edge.source, edge.target)
      · simp [add, addTo, bundle?, between, same]
      · have skip : ((source, target) == (edge.source, edge.target)) = false :=
          beq_eq_false_iff_ne.mpr same
        simp [add, addTo, bundle?, same, List.lookup_cons, skip]
  | cons first rest inductionHypothesis =>
      obtain ⟨ends, bundle⟩ := first
      simp only [add, addTo, bundle?, between] at inductionHypothesis ⊢
      by_cases here : (source, target) = ends
      · subst here
        by_cases same : (source, target) = (edge.source, edge.target) <;> simp [same]
      · have skip : ((source, target) == ends) = false := beq_eq_false_iff_ne.mpr here
        by_cases same : ends = (edge.source, edge.target)
        · subst same
          simp [List.lookup_cons, skip, here]
        · simp [same, List.lookup_cons, skip, inductionHypothesis]

end Multigraph

end CargoDeps
