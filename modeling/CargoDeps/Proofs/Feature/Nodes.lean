import CargoDeps.Proofs.Feature.Arcs

namespace CargoDeps

/-!
# The nodes of the feature graph

A package has a node of its own, one for each feature that it has, and one for each optional
dependency.  There are no others, so what can be asked for is told by the package alone.
-/

/-- What the feature graph of a package graph has nodes for. -/
inductive PackageGraph.Knows (graph : PackageGraph) : FeatureId → Prop
  | base {id : PackageId} :
      id ∈ graph.ids →
      graph.Knows (.base id)
  | feature {id : PackageId} {feature : String} :
      graph.Provides id feature →
      graph.Knows (.named id feature)
  | dependency {id : PackageId} {name : String} :
      graph.HasOptional id name →
      graph.Knows (.dependency id name)

namespace PackageGraph

open FeatureFinding

variable {graph : PackageGraph}

theorem Knows.mem_ids
    {id : FeatureId}
    (knows : graph.Knows id) :
    id.package ∈ graph.ids := by
  cases knows with
  | base known =>
      exact known
  | feature provides =>
      exact List.mem_map.mpr provides.exists_package
  | dependency optional =>
      exact List.mem_map.mpr optional.exists_package

/-! ### Arcs join known nodes -/

theorem HasArc.knows_source
    {source target : FeatureId}
    {link : Option Edge}
    (hasArc : graph.HasArc source target link) :
    graph.Knows source := by
  cases hasArc with
  | feature defines =>
      exact .feature (Or.inl defines)
  | dependency optional =>
      exact .dependency optional
  | implied optional =>
      exact .feature (Or.inr optional)
  | optional lists =>
      exact .feature (Or.inl lists.defines)
  | own lists =>
      exact .feature (Or.inl lists.defines)
  | enabled lists =>
      exact .feature (Or.inl lists.defines)
  | foreign lists =>
      exact .feature (Or.inl lists.defines)
  | @edge edge _ member =>
      unfold Edge.origin
      split
      · next isOptional =>
          exact .dependency ⟨edge, member, rfl, isOptional, rfl⟩
      · exact .base (graph.source_mem edge member)

theorem Asks.knows
    {edge : Edge}
    {node : FeatureId}
    (member : edge ∈ graph.edges)
    (asks : graph.Asks edge node) :
    graph.Knows node := by
  cases asks with
  | base =>
      exact .base (graph.target_mem edge member)
  | default _ defines =>
      exact .feature (Or.inl defines)
  | requested _ provides =>
      exact .feature provides

theorem HasArc.knows_target
    {source target : FeatureId}
    {link : Option Edge}
    (hasArc : graph.HasArc source target link) :
    graph.Knows target := by
  cases hasArc with
  | feature defines =>
      exact .base (List.mem_map.mpr defines.exists_package)
  | dependency optional =>
      exact .base (List.mem_map.mpr optional.exists_package)
  | implied optional =>
      exact .dependency optional
  | optional _ _ optional =>
      exact .dependency optional
  | own _ _ provides =>
      exact .feature provides
  | enabled _ _ optional =>
      exact .dependency optional
  | foreign _ _ _ provides =>
      exact .feature provides
  | edge member asks =>
      exact asks.knows member

/-- What a known node needs is known. -/
theorem Knows.of_needs
    {chosen : EdgePredicate}
    {source target : FeatureId}
    (knows : graph.Knows source)
    (path : graph.featureGraph.Needs chosen source target) :
    graph.Knows target := by
  cases path with
  | refl =>
      exact knows
  | tail _ passing =>
      obtain ⟨link, hasArc, -⟩ := passing_iff.mp passing
      exact hasArc.knows_target

/-! ### The nodes of the graph -/

theorem knows_of_mem_nodes
    {id : FeatureId}
    (member : id ∈ graph.featureGraph.nodes) :
    graph.Knows id := by
  simp only [featureGraph, FeatureGraph.ofParts, Sequence.mem_distinct, List.mem_append,
    List.mem_filterMap, List.mem_flatMap] at member
  rcases member with ⟨finding, listed, isNode⟩ | ⟨found, ⟨finding, listed, isArc⟩, isEnd⟩
  · have told := told_featureFindings finding listed
    cases finding with
    | node other =>
        obtain rfl : other = id := Option.some.inj isNode
        obtain ⟨package, known, rfl⟩ := told
        exact .base known
    | arc other =>
        cases isNode
    | notice left =>
        cases isNode
  · have told := told_featureFindings finding listed
    cases finding with
    | node other =>
        cases isArc
    | arc other =>
        obtain rfl : other = found := Option.some.inj isArc
        rcases List.mem_pair.mp isEnd with rfl | rfl
        · exact HasArc.knows_source told
        · exact HasArc.knows_target told
    | notice left =>
        cases isArc

/-- What an arc leads from is a node. -/
theorem source_mem_nodes
    {source target : FeatureId}
    {link : Option Edge}
    (hasArc : graph.HasArc source target link) :
    source ∈ graph.featureGraph.nodes :=
  graph.featureGraph.source_mem ⟨source, target, link⟩ (mem_arcs_iff.mpr hasArc)

theorem base_mem_nodes
    {id : PackageId}
    (known : id ∈ graph.ids) :
    .base id ∈ graph.featureGraph.nodes := by
  obtain ⟨package, member, rfl⟩ := List.mem_map.mp known
  have found : node (.base package.id) ∈ graph.featureFindings :=
    mem_findings_of_node member List.mem_cons_self
  simp only [featureGraph, FeatureGraph.ofParts, Sequence.mem_distinct, List.mem_append]
  exact Or.inl (List.mem_filterMap.mpr ⟨_, found, rfl⟩)

theorem named_mem_nodes
    {id : PackageId}
    {feature : String}
    (provides : graph.Provides id feature) :
    .named id feature ∈ graph.featureGraph.nodes := by
  by_cases defines : graph.Defines id feature
  · exact source_mem_nodes (.feature defines)
  · exact source_mem_nodes (.implied (provides.resolve_left defines) defines)

/-- The feature graph has nodes for these and nothing else. -/
theorem mem_nodes_iff
    {id : FeatureId} :
    id ∈ graph.featureGraph.nodes ↔ graph.Knows id := by
  constructor
  · exact knows_of_mem_nodes
  · intro knows
    cases knows with
    | base known =>
        exact base_mem_nodes known
    | feature provides =>
        exact named_mem_nodes provides
    | dependency optional =>
        exact source_mem_nodes (.dependency optional)

/-- A package has the nodes of its features and of its optional dependencies. -/
theorem named_mem_nodes_iff
    {id : PackageId}
    {feature : String} :
    .named id feature ∈ graph.featureGraph.nodes ↔
      graph.Provides id feature ∨
        ∃ name,
          feature = FeatureId.dependencyMark ++ name ∧ graph.HasOptional id name := by
  rw [mem_nodes_iff]
  constructor
  · intro knows
    generalize same : FeatureId.named id feature = node at knows
    cases knows with
    | base listed =>
        cases same
    | feature provides =>
        cases same
        exact Or.inl provides
    | dependency optional =>
        cases same
        exact Or.inr ⟨_, rfl, optional⟩
  · intro either
    rcases either with provides | ⟨name, rfl, optional⟩
    · exact .feature provides
    · exact .dependency optional

/-- What can be asked for by name is what the package accepts. -/
theorem isRequestable_iff
    {id : PackageId}
    {feature : String} :
    graph.featureGraph.isRequestable id feature = true ↔ graph.Accepts id feature := by
  rw [FeatureGraph.isRequestable, Bool.and_eq_true, Bool.not_eq_true', decide_eq_true_eq,
    named_mem_nodes_iff, Accepts, ← FeatureId.isDependencyName_iff, Bool.not_eq_true]
  refine and_congr_right fun plain => ⟨fun either => either.resolve_right ?_, Or.inl⟩
  intro optional
  obtain ⟨name, rfl, -⟩ := optional
  rw [FeatureId.isDependencyName_mark] at plain
  cases plain

end PackageGraph

end CargoDeps
