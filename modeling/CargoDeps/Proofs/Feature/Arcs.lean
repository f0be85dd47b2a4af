import CargoDeps.Proofs.Feature.Closure
import CargoDeps.Proofs.Feature.Rules
import CargoDeps.Proofs.Feature.Target

namespace CargoDeps

/-!
# The arcs of the feature graph

Why one node of the feature graph needs another directly, told from the feature tables and the
dependency edges.  The graph has these arcs and no others.
-/

/-- The node that a dependency edge starts from: the base of its source, or the optional
dependency. -/
def Edge.origin (edge : Edge) : FeatureId :=
  if edge.isOptional then
    .dependency edge.source edge.name
  else
    .base edge.source

@[simp] theorem Edge.package_origin
    (edge : Edge) :
    edge.origin.package = edge.source := by
  unfold origin
  split
  · rfl
  · rfl

namespace PackageGraph

/-- What a dependency edge asks of its target: the package, its default feature, or a feature that
is asked for by name. -/
inductive Asks (graph : PackageGraph) (edge : Edge) : FeatureId → Prop
  | base :
      Asks graph edge (.base edge.target)
  | default :
      edge.defaultFeatures = true →
      graph.Defines edge.target "default" →
      Asks graph edge (.named edge.target "default")
  | requested {feature : String} :
      feature ∈ edge.features →
      graph.Provides edge.target feature →
      Asks graph edge (.named edge.target feature)

/-- An arc leads from one node to another, because of a dependency edge or of none. -/
inductive HasArc (graph : PackageGraph) : FeatureId → FeatureId → Option Edge → Prop
  | feature {id : PackageId} {feature : String} :
      graph.Defines id feature →
      HasArc graph (.named id feature) (.base id) none
  | dependency {id : PackageId} {name : String} :
      graph.HasOptional id name →
      HasArc graph (.dependency id name) (.base id) none
  | implied {id : PackageId} {name : String} :
      graph.HasOptional id name →
      ¬graph.Defines id name →
      HasArc graph (.named id name) (.dependency id name) none
  | optional {id : PackageId} {feature target name : String} :
      graph.Lists id feature target →
      FeatureTarget.ofText target = .dependency name →
      graph.HasOptional id name →
      HasArc graph (.named id feature) (.dependency id name) none
  | own {id : PackageId} {feature target name : String} :
      graph.Lists id feature target →
      FeatureTarget.ofText target = .own name →
      graph.Provides id name →
      HasArc graph (.named id feature) (.named id name) none
  | enabled {id : PackageId} {feature target name part : String} :
      graph.Lists id feature target →
      FeatureTarget.ofText target = .foreign name part →
      graph.HasOptional id name →
      HasArc graph (.named id feature) (.dependency id name) none
  | foreign {edge : Edge} {feature target part : String} :
      graph.Lists edge.source feature target →
      FeatureTarget.ofText target = .foreign edge.name part →
      edge ∈ graph.edges →
      graph.Provides edge.target part →
      HasArc graph (.named edge.source feature) (.named edge.target part) (some edge)
  | edge {edge : Edge} {target : FeatureId} :
      edge ∈ graph.edges →
      graph.Asks edge target →
      HasArc graph edge.origin target (some edge)

end PackageGraph

namespace FeatureFinding

/-- What is found is the base of a package, an arc that there is, or something left out. -/
def Told (graph : PackageGraph) : FeatureFinding → Prop
  | node id => ∃ known ∈ graph.ids, id = .base known
  | arc found => graph.HasArc found.source found.target found.link
  | notice _ => True

variable {graph : PackageGraph} {source target : FeatureId}

@[simp] theorem told_node
    {id : FeatureId} :
    (node id).Told graph ↔ ∃ known ∈ graph.ids, id = .base known :=
  Iff.rfl

@[simp] theorem told_notice
    {left : FeatureNotice} :
    (notice left).Told graph ↔ True :=
  Iff.rfl

@[simp] theorem told_inner :
    (inner source target).Told graph ↔ graph.HasArc source target none :=
  Iff.rfl

@[simp] theorem told_linked
    {edge : Edge} :
    (linked source target edge).Told graph ↔ graph.HasArc source target (some edge) :=
  Iff.rfl

end FeatureFinding

namespace PackageGraph

open FeatureFinding

variable {graph : PackageGraph}

/-! ### What is found is told by the input -/

theorem told_nodeFindings
    {package : Package}
    (member : package ∈ graph.packages) :
    ∀ finding ∈ graph.nodeFindings package, finding.Told graph := by
  simp only [nodeFindings, List.cons_append, List.forall_mem_cons, List.forall_mem_append,
    List.forall_mem_map, List.forall_mem_flatMap, told_node, told_inner, mem_optionalNames]
  refine ⟨⟨package.id, List.mem_map_of_mem member, rfl⟩, ?_, ?_⟩
  · intro feature listed
    exact .feature ⟨package, member, rfl, listed⟩
  · intro name optional
    by_cases defines : package.features.defines name = true
    · simpa [defines] using HasArc.dependency optional
    · have undefined : ¬graph.Defines package.id name :=
        fun listed => defines ((defines_iff member).mpr listed)
      simpa [defines] using
        And.intro (HasArc.dependency optional) (HasArc.implied optional undefined)

theorem told_foreignFindings
    {package : Package}
    {feature target name part : String}
    (lists : graph.Lists package.id feature target)
    (writes : FeatureTarget.ofText target = .foreign name part) :
    ∀ finding ∈ graph.foreignFindings package (.named package.id feature) target name part,
      finding.Told graph := by
  unfold foreignFindings
  split
  · simp
  · simp only [List.forall_mem_append, List.forall_mem_map, List.mem_ite_nil_right,
      List.mem_singleton, mem_optionalNames]
    constructor
    · intro finding enabled
      obtain ⟨optional, rfl⟩ := enabled
      exact .enabled lists writes optional
    · intro edge listed
      obtain ⟨leaves, called⟩ := List.mem_filter.mp listed
      obtain ⟨member, fromPackage⟩ := mem_edgesFrom.mp leaves
      obtain rfl : edge.name = name := of_decide_eq_true called
      split
      · next provides =>
          rw [← fromPackage] at lists ⊢
          exact .foreign lists writes member (providesFeature_iff.mp provides)
      · trivial

theorem told_targetFindings
    {package : Package}
    (member : package ∈ graph.packages)
    {feature target : String}
    (lists : graph.Lists package.id feature target) :
    ∀ finding ∈ graph.targetFindings package feature target, finding.Told graph := by
  unfold targetFindings
  cases writes : FeatureTarget.ofText target with
  | dependency name =>
      by_cases optional : graph.HasOptional package.id name
      · have isDependency :
            FeatureId.named package.id target = .dependency package.id name :=
          congrArg _ (FeatureTarget.eq_of_ofText_dependency writes)
        simpa [mem_optionalNames, optional, isDependency] using
          HasArc.optional lists writes optional
      · simp [mem_optionalNames, optional]
  | weak =>
      simp
  | foreign name part =>
      exact told_foreignFindings lists writes
  | own name =>
      by_cases provides : graph.Provides package.id name
      · simpa [(defines_or_optional_iff member).mpr provides] using
          HasArc.own lists writes provides
      · have notProvided := Bool.eq_false_iff.mpr (mt (defines_or_optional_iff member).mp provides)
        simp [notProvided]

theorem told_edgeFindings
    {edge : Edge}
    (member : edge ∈ graph.edges) :
    ∀ finding ∈ graph.edgeFindings edge, finding.Told graph := by
  simp only [edgeFindings, List.cons_append, List.forall_mem_cons, List.forall_mem_append,
    List.forall_mem_map, List.mem_ite_nil_right, List.mem_singleton, told_linked,
    Bool.and_eq_true, defines_featureTable_iff]
  refine ⟨.edge member .base, ?_, ?_⟩
  · intro finding found
    obtain ⟨⟨asked, defines⟩, rfl⟩ := found
    exact .edge member (.default asked defines)
  · intro feature asked
    split
    · next provides =>
        exact .edge member (.requested asked (providesFeature_iff.mp provides))
    · trivial

theorem told_featureFindings :
    ∀ finding ∈ graph.featureFindings, finding.Told graph := by
  simp only [featureFindings, List.forall_mem_append, List.forall_mem_flatMap]
  refine ⟨⟨fun package member => told_nodeFindings member, ?_⟩,
    fun edge member => told_edgeFindings member⟩
  intro package member
  simp only [tableFindings, List.forall_mem_flatMap, Prod.forall]
  intro feature targets entry target listed
  exact told_targetFindings member ⟨package, member, rfl, targets, entry, listed⟩

/-! ### Each of these arcs is found -/

theorem mem_findings_of_node
    {package : Package}
    (member : package ∈ graph.packages)
    {finding : FeatureFinding}
    (found : finding ∈ graph.nodeFindings package) :
    finding ∈ graph.featureFindings := by
  simp only [featureFindings, List.mem_append, List.mem_flatMap]
  exact Or.inl (Or.inl ⟨package, member, found⟩)

theorem mem_findings_of_target
    {package : Package}
    (member : package ∈ graph.packages)
    {feature target : String}
    {targets : List String}
    (entry : (feature, targets) ∈ package.features)
    (listed : target ∈ targets)
    {finding : FeatureFinding}
    (found : finding ∈ graph.targetFindings package feature target) :
    finding ∈ graph.featureFindings := by
  simp only [featureFindings, tableFindings, List.mem_append, List.mem_flatMap]
  exact Or.inl (Or.inr ⟨package, member, (feature, targets), entry, target, listed, found⟩)

theorem mem_findings_of_edge
    {edge : Edge}
    (member : edge ∈ graph.edges)
    {finding : FeatureFinding}
    (found : finding ∈ graph.edgeFindings edge) :
    finding ∈ graph.featureFindings := by
  simp only [featureFindings, List.mem_append, List.mem_flatMap]
  exact Or.inr ⟨edge, member, found⟩

theorem mem_nodeFindings_of_optional
    {package : Package}
    {name : String}
    (optional : graph.HasOptional package.id name)
    {finding : FeatureFinding}
    (found :
      finding ∈
        if package.features.defines name then
          [inner (.dependency package.id name) (.base package.id)]
        else
          [inner (.dependency package.id name) (.base package.id),
            inner (.named package.id name) (.dependency package.id name)]) :
    finding ∈ graph.nodeFindings package := by
  simp only [nodeFindings, List.cons_append, List.mem_cons, List.mem_append, List.mem_flatMap]
  exact Or.inr (Or.inr ⟨name, mem_optionalNames.mpr optional, found⟩)

/-- The arcs for a feature of a dependency are found wherever an edge has the name. -/
theorem mem_foreignFindings
    {package : Package}
    {source : FeatureId}
    {target part : String}
    {edge : Edge}
    (member : edge ∈ graph.edges)
    (leaves : edge.source = package.id) :
    (edge.isOptional = true →
      inner source (.dependency package.id edge.name) ∈
        graph.foreignFindings package source target edge.name part) ∧
    (graph.Provides edge.target part →
      linked source (.named edge.target part) edge ∈
        graph.foreignFindings package source target edge.name part) := by
  have called :
      edge ∈ (graph.edgesFrom package.id).filter fun other => other.name = edge.name :=
    List.mem_filter.mpr ⟨mem_edgesFrom.mpr ⟨member, leaves⟩, decide_eq_true rfl⟩
  unfold foreignFindings
  split
  · next none =>
      simp [none] at called
  · constructor
    · intro optional
      have enabled : edge.name ∈ graph.optionalNames package.id :=
        mem_optionalNames.mpr ⟨edge, member, leaves, optional, rfl⟩
      simp [enabled]
    · intro provides
      apply List.mem_append_right
      apply List.mem_map.mpr
      exact ⟨edge, called, if_pos (providesFeature_iff.mpr provides)⟩

theorem mem_findings_of_hasArc
    {source target : FeatureId}
    {link : Option Edge}
    (hasArc : graph.HasArc source target link) :
    arc ⟨source, target, link⟩ ∈ graph.featureFindings := by
  cases hasArc with
  | feature defines =>
      obtain ⟨package, member, rfl, listed⟩ := defines
      apply mem_findings_of_node member
      simp only [nodeFindings, List.cons_append, List.mem_cons, List.mem_append]
      exact Or.inr (Or.inl (List.mem_map_of_mem listed))
  | dependency optional =>
      obtain ⟨package, member, rfl⟩ := optional.exists_package
      apply mem_findings_of_node member
      apply mem_nodeFindings_of_optional optional
      split
      · exact List.mem_cons_self
      · exact List.mem_cons_self
  | implied optional undefined =>
      obtain ⟨package, member, rfl⟩ := optional.exists_package
      apply mem_findings_of_node member
      apply mem_nodeFindings_of_optional optional
      rw [if_neg fun defines => undefined ((defines_iff member).mp defines)]
      exact List.mem_cons_of_mem _ List.mem_cons_self
  | optional lists writes optional =>
      obtain ⟨package, member, rfl, targets, entry, listed⟩ := lists
      apply mem_findings_of_target member entry listed
      simp only [targetFindings, writes, mem_optionalNames, optional, if_true, List.mem_singleton]
      rw [FeatureTarget.eq_of_ofText_dependency writes]
      rfl
  | own lists writes provides =>
      obtain ⟨package, member, rfl, targets, entry, listed⟩ := lists
      apply mem_findings_of_target member entry listed
      simp only [targetFindings, writes, (defines_or_optional_iff member).mpr provides, if_true,
        List.mem_singleton]
      rfl
  | enabled lists writes optional =>
      obtain ⟨package, member, rfl, targets, entry, listed⟩ := lists
      obtain ⟨edge, edgeMember, leaves, isOptional, rfl⟩ := optional
      apply mem_findings_of_target member entry listed
      rw [targetFindings, writes]
      exact (mem_foreignFindings edgeMember leaves).1 isOptional
  | foreign lists writes member provides =>
      obtain ⟨package, packageMember, same, targets, entry, listed⟩ := lists
      apply mem_findings_of_target packageMember entry listed
      rw [targetFindings, writes, ← same]
      exact (mem_foreignFindings member same.symm).2 provides
  | edge member asks =>
      apply mem_findings_of_edge member
      cases asks with
      | base =>
          exact List.mem_cons_self
      | default asked defines =>
          simp only [edgeFindings, List.cons_append, List.mem_cons, List.mem_append]
          refine Or.inr (Or.inl ?_)
          rw [asked, defines_featureTable_iff.mpr defines]
          exact List.mem_cons_self
      | requested asked provides =>
          simp only [edgeFindings, List.cons_append, List.mem_cons, List.mem_append]
          refine Or.inr (Or.inr (List.mem_map.mpr ⟨_, asked, ?_⟩))
          exact if_pos (providesFeature_iff.mpr provides)

/-! ### The arcs of the graph -/

theorem mem_arcs
    {found : FeatureArc} :
    found ∈ graph.featureGraph.arcs ↔ arc found ∈ graph.featureFindings := by
  simp only [featureGraph, FeatureGraph.ofParts, List.mem_filterMap]
  constructor
  · intro listed
    obtain ⟨finding, member, isArc⟩ := listed
    cases finding <;> simp_all [arc?]
  · intro member
    exact ⟨arc found, member, rfl⟩

/-- The feature graph has these arcs and no others. -/
theorem mem_arcs_iff
    {found : FeatureArc} :
    found ∈ graph.featureGraph.arcs ↔ graph.HasArc found.source found.target found.link := by
  rw [mem_arcs]
  constructor
  · intro member
    exact told_featureFindings (arc found) member
  · intro hasArc
    exact mem_findings_of_hasArc hasArc

/-- One node needs another directly if an arc leads there that comes from no dependency edge or from
a chosen one. -/
theorem passing_iff
    {chosen : EdgePredicate}
    {source target : FeatureId} :
    graph.featureGraph.Passing chosen source target ↔
      ∃ link, graph.HasArc source target link ∧ ∀ edge, link = some edge → chosen edge = true := by
  constructor
  · intro passing
    obtain ⟨found, listed, rfl, rfl, counts⟩ := passing
    refine ⟨found.link, mem_arcs_iff.mp listed, ?_⟩
    intro edge isLink
    rcases counts with noLink | ⟨other, isOther, accepted⟩
    · cases noLink.symm.trans isLink
    · obtain rfl : other = edge := Option.some.inj (isOther.symm.trans isLink)
      exact accepted
  · intro arcs
    obtain ⟨link, hasArc, accepted⟩ := arcs
    refine ⟨⟨source, target, link⟩, mem_arcs_iff.mpr hasArc, rfl, rfl, ?_⟩
    cases link with
    | none =>
        exact Or.inl rfl
    | some edge =>
        exact Or.inr ⟨edge, rfl, accepted edge rfl⟩

end PackageGraph

end CargoDeps
