import CargoDeps.Proofs.Feature.Projection
import CargoDeps.Proofs.Order

namespace CargoDeps

/-!
# Every feature stands on its base

An arc of no dependency edge stays in one package, and one of a dependency edge leads from the
source of the edge to its target.  Inside a package all paths end at its base, which every other
node reaches in one step or two.  So what is needed has with a feature the base of its package, along
whatever edges, and the packages that are activated are those whose bases are.
-/

/-- A base is that of its package. -/
theorem FeatureId.eq_base_of_isBase
    {id : FeatureId}
    (isBase : id.isBase = true) :
    id = .base id.package := by
  obtain ⟨package, feature⟩ := id
  obtain rfl := Option.isNone_iff_eq_none.mp isBase
  rfl

/-- Arcs of no dependency edge count along whatever edges. -/
theorem FeatureGraph.Inner.passing
    {graph : FeatureGraph}
    {source target : FeatureId}
    (inner : graph.Inner source target)
    (chosen : EdgePredicate) :
    graph.Passing chosen source target := by
  obtain ⟨arc, listed, leaves, enters, noLink⟩ := inner
  exact ⟨arc, listed, leaves, enters, Or.inl noLink⟩

namespace PackageGraph

variable {graph : PackageGraph} {chosen : EdgePredicate} {package : PackageId}
  {requested : List String} {node : FeatureId}

/-! ### Paths to the base -/

/-- A node other than a base is one or two arcs of no dependency edge away from its base.  It is two
if only the name of an optional dependency makes it a feature. -/
theorem inner_base
    (knows : graph.Knows node)
    (notBase : node.isBase = false) :
    graph.featureGraph.Inner node (.base node.package) ∨
      ∃ between,
        graph.featureGraph.Inner node between ∧
          graph.featureGraph.Inner between (.base node.package) := by
  cases knows with
  | base known =>
      cases notBase
  | @feature id feature provides =>
      by_cases defines : graph.Defines id feature
      · exact Or.inl (inner_iff.mpr (.feature defines))
      · have optional := provides.resolve_left defines
        exact Or.inr ⟨.dependency id feature, inner_iff.mpr (.implied optional defines),
          inner_iff.mpr (.dependency optional)⟩
  | dependency optional =>
      exact Or.inl (inner_iff.mpr (.dependency optional))

/-- Every node needs the base of its package. -/
theorem needs_base
    (chosen : EdgePredicate)
    (member : node ∈ graph.featureGraph.nodes) :
    graph.featureGraph.Needs chosen node (.base node.package) := by
  cases isBase : node.isBase with
  | true =>
      rw [← FeatureId.eq_base_of_isBase isBase]
  | false =>
      rcases inner_base (mem_nodes_iff.mp member) isBase with
        direct | ⟨between, first, second⟩
      · exact .single (direct.passing chosen)
      · exact (Relation.ReflTransGen.single (first.passing chosen)).tail (second.passing chosen)

/-! ### Bases among what is needed -/

/-- A closure has with each node the base of its package. -/
theorem base_mem_of_closure
    {starts result : List FeatureId}
    (closes : graph.featureGraph.closure starts chosen = .ok result)
    (member : node ∈ result) :
    .base node.package ∈ result := by
  have known := FeatureGraph.known_of_closure closes
  obtain ⟨start, isStart, path⟩ := (FeatureGraph.mem_closure_iff known closes).mp member
  have toBase := needs_base chosen (path.mem_nodes (known isStart))
  exact (FeatureGraph.mem_closure_iff known closes).mpr ⟨start, isStart, path.trans toBase⟩

/-- So has what is activated. -/
theorem base_mem_of_activate
    {ids : List FeatureId}
    (returns : graph.featureGraph.activate package requested chosen = .ok ids)
    (member : node ∈ ids) :
    .base node.package ∈ ids := by
  obtain ⟨-, result, closes, rfl⟩ := FeatureGraph.activate_eq_ok_iff.mp returns
  exact Sequence.mem_sorted.mpr (base_mem_of_closure closes (Sequence.mem_sorted.mp member))

/-- The packages of what is activated, in ascending order, are those of the bases among it. -/
theorem packages_of_activate
    {ids : List FeatureId}
    (returns : graph.featureGraph.activate package requested chosen = .ok ids) :
    Sequence.sorted (fun a b => a < b) (Sequence.distinct (ids.map FeatureId.package)) =
      (ids.filter FeatureId.isBase).map FeatureId.package := by
  have ascending :
      ((ids.filter FeatureId.isBase).map FeatureId.package).Pairwise (· < ·) := by
    rw [List.pairwise_map]
    refine ((FeatureGraph.pairwise_lt_of_activate returns).filter _).imp_of_mem ?_
    intro first second firstKept secondKept below
    rw [FeatureId.eq_base_of_isBase (List.mem_filter.mp firstKept).2,
      FeatureId.eq_base_of_isBase (List.mem_filter.mp secondKept).2] at below
    exact FeatureId.base_lt_base_iff.mp below
  refine (Sequence.pairwise_lt_sorted (fun _ _ => decide_eq_true_iff)
    (Sequence.nodup_distinct _)).eq_of_mem_iff ascending ?_
  intro id
  simp only [Sequence.mem_sorted, Sequence.mem_distinct, List.mem_map, List.mem_filter]
  constructor
  · intro found
    obtain ⟨node, member, rfl⟩ := found
    exact ⟨.base node.package, ⟨base_mem_of_activate returns member, rfl⟩, rfl⟩
  · intro found
    obtain ⟨node, ⟨member, -⟩, same⟩ := found
    exact ⟨node, member, same⟩

theorem activatePackages_eq_map_bases :
    graph.featureGraph.activatePackages package requested chosen =
      (graph.featureGraph.activate package requested chosen).map fun ids =>
        (ids.filter FeatureId.isBase).map FeatureId.package := by
  unfold FeatureGraph.activatePackages
  cases returns : graph.featureGraph.activate package requested chosen with
  | error error =>
      rfl
  | ok ids =>
      exact congrArg Except.ok (packages_of_activate returns)

/--
An arc of no dependency edge joins nodes of one package and does not leave its base, and an arc of a
dependency edge leads from a node of its source to one of its target.  Every node but a base has a
path of one or two arcs of no dependency edge to the base of its package.

Along whatever edges, a closure has therefore with each node the base of its package, and the
packages that are activated are those whose bases are.
-/
theorem featureGraph_grounded
    (graph : PackageGraph) :
    (∀ arc ∈ graph.featureGraph.arcs,
      arc.source ∈ graph.featureGraph.nodes ∧
      arc.target ∈ graph.featureGraph.nodes ∧
      (arc.link = none →
        arc.source.package = arc.target.package ∧ arc.source.isBase = false) ∧
      ∀ edge,
        arc.link = some edge →
        edge ∈ graph.edges ∧
          edge.source = arc.source.package ∧
            edge.target = arc.target.package) ∧
    (∀ node ∈ graph.featureGraph.nodes,
      node.isBase = false →
      graph.featureGraph.Inner node (.base node.package) ∨
        ∃ between,
          graph.featureGraph.Inner node between ∧
            graph.featureGraph.Inner between (.base node.package)) ∧
    (∀ starts chosen result,
      graph.featureGraph.closure starts chosen = .ok result →
      ∀ node ∈ result, .base node.package ∈ result) ∧
    ∀ package requested chosen,
      graph.featureGraph.activatePackages package requested chosen =
        (graph.featureGraph.activate package requested chosen).map fun ids =>
          (ids.filter FeatureId.isBase).map FeatureId.package := by
  refine ⟨?_, fun node member => inner_base (mem_nodes_iff.mp member),
    fun starts chosen result closes node => base_mem_of_closure closes,
    fun package requested chosen => activatePackages_eq_map_bases⟩
  intro arc listed
  have hasArc := mem_arcs_iff.mp listed
  refine ⟨graph.featureGraph.source_mem arc listed, graph.featureGraph.target_mem arc listed, ?_, ?_⟩
  · intro noLink
    rw [noLink] at hasArc
    exact ⟨hasArc.package_eq, hasArc.isBase_eq_false⟩
  · intro edge isLink
    rw [isLink] at hasArc
    exact hasArc.ends_eq

/-- What `std` activates are features of three packages, the bases of which are activated. -/
theorem featureGraph_grounded_logging :
    let graph := Logging.sample.featureGraph
    let node := FeatureId.named Logging.server "std"
    node ∈ graph.nodes ∧
      (graph.Inner node (.base Logging.server) ∨
        ∃ between, graph.Inner node between ∧ graph.Inner between (.base Logging.server)) ∧
      graph.activatePackages Logging.server ["std"] .everything =
        .ok [Logging.core, Logging.log, Logging.server] := by
  intro graph node
  have member : node ∈ graph.nodes := by
    decide +kernel
  have returns :
      graph.activate Logging.server ["std"] .everything =
        .ok [.base Logging.core, .named Logging.core "alloc", .named Logging.core "default",
          .base Logging.log, .base Logging.server, .dependency Logging.server "log", node] := by
    decide +kernel
  obtain ⟨-, grounded, -, packages⟩ := featureGraph_grounded Logging.sample
  refine ⟨member, grounded node member rfl, ?_⟩
  rw [packages, returns]
  rfl

end PackageGraph

end CargoDeps
