import CargoDeps.Dependency.Filter
import CargoDeps.Digraph.Component
import CargoDeps.Feature.Id
import CargoDeps.Sequence.Index

namespace CargoDeps

/-!
# Feature graphs

Which features need which others.  An arc between two packages comes from a dependency edge and
counts only where that edge is chosen; an arc inside a package comes from its feature table and
always counts.
-/

/-- The activation of the source needs that of the target. -/
structure FeatureArc where
  source : FeatureId
  target : FeatureId
  link : Option Edge

/-- Whether an arc counts along chosen edges. -/
def FeatureArc.passes (arc : FeatureArc) (chosen : EdgePredicate) : Bool :=
  match arc.link with
  | none => true
  | some edge => chosen edge

/-- The order of arcs: by source, then target, then position of the dependency edge, arcs without
one first. -/
def FeatureArc.before (a b : FeatureArc) : Bool :=
  if a.source = b.source then
    if a.target = b.target then
      match a.link, b.link with
      | none, some _ => true
      | some e, some f => e.index < f.index
      | _, none => false
    else
      a.target.before b.target
  else
    a.source.before b.source

/-- A feature graph.  The type keeps that arcs join nodes of the graph. -/
structure FeatureGraph where
  nodes : List FeatureId
  arcs : List FeatureArc
  leaving : Sequence.Index FeatureId FeatureArc
  entering : Sequence.Index FeatureId FeatureArc
  distinct_nodes : nodes.Nodup
  source_mem : ∀ arc ∈ arcs, arc.source ∈ nodes
  target_mem : ∀ arc ∈ arcs, arc.target ∈ nodes
  leaving_eq : leaving = .ofList FeatureArc.source arcs
  entering_eq : entering = .ofList FeatureArc.target arcs

namespace FeatureGraph

/-- The graph of some arcs, together with nodes that may have no arcs. -/
def ofParts (nodes : List FeatureId) (arcs : List FeatureArc) : FeatureGraph where
  nodes := Sequence.distinct (nodes ++ arcs.flatMap fun arc => [arc.source, arc.target])
  arcs := arcs
  leaving := .ofList FeatureArc.source arcs
  entering := .ofList FeatureArc.target arcs
  distinct_nodes := Sequence.nodup_distinct _
  source_mem := by
    intro arc member
    simp only [Sequence.mem_distinct, List.mem_append, List.mem_flatMap]
    exact Or.inr ⟨arc, member, by simp⟩
  target_mem := by
    intro arc member
    simp only [Sequence.mem_distinct, List.mem_append, List.mem_flatMap]
    exact Or.inr ⟨arc, member, by simp⟩
  leaving_eq := rfl
  entering_eq := rfl

/-- The arcs that leave a node, target by target in the order of the first arc to each. -/
def arcsFrom (graph : FeatureGraph) (id : FeatureId) : List FeatureArc :=
  let arcs := graph.leaving.get id
  (Sequence.distinct (arcs.map FeatureArc.target)).flatMap fun target =>
    arcs.filter fun arc => arc.target = target

/-- What a node needs directly along chosen edges, repeated for parallel arcs. -/
def successors (graph : FeatureGraph) (chosen : EdgePredicate) (id : FeatureId) :
    List FeatureId :=
  ((graph.arcsFrom id).filter fun arc => arc.passes chosen).map FeatureArc.target

/-- The nodes of a package, its base first. -/
def featuresOf (graph : FeatureGraph) (package : PackageId) : List FeatureId :=
  FeatureId.ascending (graph.nodes.filter fun id => id.package = package)

/-- The arcs in ascending order. -/
def arcsAscending (graph : FeatureGraph) : List FeatureArc :=
  Sequence.sorted FeatureArc.before graph.arcs

/-- The nodes with all arcs. -/
def digraph (graph : FeatureGraph) : Digraph FeatureId where
  nodes := graph.nodes
  next id := Sequence.distinct ((graph.leaving.get id).map FeatureArc.target)
  prev id := Sequence.distinct ((graph.entering.get id).map FeatureArc.source)

/-- The cyclic components of the graph, each ascending, in ascending order. -/
def findCycles (graph : FeatureGraph) : List (List FeatureId) :=
  let digraph := graph.digraph
  Sequence.sorted FeatureId.listBefore
    ((digraph.components.filter digraph.isCyclic).map FeatureId.ascending)

end FeatureGraph

end CargoDeps
