import CargoDeps.Proofs.Feature.Nodes

namespace CargoDeps.PackageGraph

/-!
# Closed parts of a graph

A part of a graph that no chosen edge leads out of, and that has no other edges, may lack optional
dependencies of the graph.  With them it has lost nodes of the feature graph.  A lost node needs
nothing but the base of its package, perhaps by way of another lost node, and whatever needs a lost
node needs that base as well.  So each node of the graph is stood for by one of the part.
-/

open Relation (ReflTransGen TransGen)

/-- No feature of a table and no dependency has a name with the mark of an optional dependency. -/
structure Unmarked (graph : PackageGraph) : Prop where
  feature :
    ∀ package ∈ graph.packages,
      ∀ feature ∈ package.features.names,
        ¬∃ name, feature = FeatureId.dependencyMark ++ name
  dependency :
    ∀ edge ∈ graph.edges,
      ¬∃ name, edge.name = FeatureId.dependencyMark ++ name

/-- A part has some packages of a graph, and of the edges those that leave its packages and are
chosen. -/
structure ClosedPart
    (graph : PackageGraph)
    (chosen : EdgePredicate)
    (part : PackageGraph) : Prop where
  packages :
    part.packages ⊆ graph.packages
  edges :
    ∀ edge,
      edge ∈ part.edges ↔
        edge ∈ graph.edges ∧
          edge.source ∈ part.ids ∧
            chosen edge = true

variable {graph part : PackageGraph} {chosen : EdgePredicate} {id : PackageId}
  {name feature target : String}

/-! ### Names without marks -/

theorem Unmarked.not_provides
    (unmarked : graph.Unmarked) :
    ¬graph.Provides id (FeatureId.dependencyMark ++ name) := by
  intro provides
  rcases provides with ⟨package, member, -, listed⟩ | ⟨edge, member, -, -, called⟩
  · exact unmarked.feature package member _ listed ⟨name, rfl⟩
  · exact unmarked.dependency edge member ⟨name, called⟩

theorem Unmarked.accepts
    (unmarked : graph.Unmarked)
    (provides : graph.Provides id feature) :
    graph.Accepts id feature := by
  refine ⟨?_, provides⟩
  intro marked
  obtain ⟨name, rfl⟩ := marked
  exact unmarked.not_provides provides

/-- Without marks in names, a node with a mark stands for an optional dependency only. -/
theorem Unmarked.knows_dependency_iff
    (unmarked : graph.Unmarked) :
    graph.Knows (.dependency id name) ↔ graph.HasOptional id name := by
  constructor
  · intro knows
    generalize same : FeatureId.dependency id name = node at knows
    cases knows with
    | base =>
        cases same
    | feature provides =>
        cases same
        exact absurd provides unmarked.not_provides
    | @dependency _ other optional =>
        obtain ⟨rfl, sameFeature⟩ := FeatureId.mk.inj same
        obtain rfl : name = other := by simpa using sameFeature
        exact optional
  · exact .dependency

/-- Without marks in names, a node that a package is asked for by name stands for a feature only. -/
theorem Accepts.knows_named_iff
    (accepts : graph.Accepts id feature) :
    part.Knows (.named id feature) ↔ part.Provides id feature := by
  constructor
  · intro knows
    generalize same : FeatureId.named id feature = node at knows
    cases knows with
    | base =>
        cases same
    | feature provides =>
        cases same
        exact provides
    | @dependency _ name =>
        cases same
        exact absurd ⟨name, rfl⟩ accepts.1
  · exact .feature

/-! ### What a part has of the graph -/

namespace ClosedPart

theorem ids_subset
    (closed : graph.ClosedPart chosen part) :
    part.ids ⊆ graph.ids :=
  List.map_subset Package.id closed.packages

theorem exists_package_iff
    (closed : graph.ClosedPart chosen part)
    {condition : Package → Prop} :
    (∃ package ∈ part.packages, package.id = id ∧ condition package) ↔
      id ∈ part.ids ∧ ∃ package ∈ graph.packages, package.id = id ∧ condition package := by
  constructor
  · intro found
    obtain ⟨package, member, rfl, holds⟩ := found
    exact ⟨List.mem_map_of_mem member, package, closed.packages member, rfl, holds⟩
  · intro found
    obtain ⟨kept, package, member, rfl, holds⟩ := found
    obtain ⟨other, otherMember, same⟩ := List.mem_map.mp kept
    obtain rfl : other = package := eq_of_id_eq (closed.packages otherMember) member same
    exact ⟨other, otherMember, rfl, holds⟩

theorem defines_iff
    (closed : graph.ClosedPart chosen part) :
    part.Defines id feature ↔ id ∈ part.ids ∧ graph.Defines id feature :=
  closed.exists_package_iff

theorem lists_iff
    (closed : graph.ClosedPart chosen part) :
    part.Lists id feature target ↔ id ∈ part.ids ∧ graph.Lists id feature target :=
  closed.exists_package_iff

theorem mem_edges
    (closed : graph.ClosedPart chosen part)
    {edge : Edge}
    (member : edge ∈ part.edges) :
    edge ∈ graph.edges :=
  ((closed.edges edge).mp member).1

theorem chosen_of_mem
    (closed : graph.ClosedPart chosen part)
    {edge : Edge}
    (member : edge ∈ part.edges) :
    chosen edge = true :=
  ((closed.edges edge).mp member).2.2

theorem hasOptional
    (closed : graph.ClosedPart chosen part)
    (optional : part.HasOptional id name) :
    graph.HasOptional id name := by
  obtain ⟨edge, member, leaves, isOptional, called⟩ := optional
  exact ⟨edge, closed.mem_edges member, leaves, isOptional, called⟩

theorem provides
    (closed : graph.ClosedPart chosen part)
    (provides : part.Provides id feature) :
    graph.Provides id feature :=
  provides.imp (fun defines => (closed.defines_iff.mp defines).2) closed.hasOptional

theorem unmarked
    (closed : graph.ClosedPart chosen part)
    (unmarked : graph.Unmarked) :
    part.Unmarked where
  feature package member := unmarked.feature package (closed.packages member)
  dependency edge member := unmarked.dependency edge (closed.mem_edges member)

/-! ### Arcs of the part are arcs of the graph -/

theorem asks
    (closed : graph.ClosedPart chosen part)
    {edge : Edge}
    {node : FeatureId}
    (asks : part.Asks edge node) :
    graph.Asks edge node := by
  cases asks with
  | base =>
      exact .base
  | default asked defines =>
      exact .default asked (closed.defines_iff.mp defines).2
  | requested asked provides =>
      exact .requested asked (closed.provides provides)

theorem hasArc
    (closed : graph.ClosedPart chosen part)
    {source target : FeatureId}
    {link : Option Edge}
    (hasArc : part.HasArc source target link) :
    graph.HasArc source target link ∧ ∀ edge, link = some edge → chosen edge = true := by
  cases hasArc with
  | feature defines =>
      exact ⟨.feature (closed.defines_iff.mp defines).2, by simp⟩
  | dependency optional =>
      exact ⟨.dependency (closed.hasOptional optional), by simp⟩
  | implied optional undefined =>
      refine ⟨.implied (closed.hasOptional optional) ?_, by simp⟩
      intro defines
      exact undefined (closed.defines_iff.mpr ⟨List.mem_map.mpr optional.exists_package, defines⟩)
  | optional lists writes optional =>
      exact ⟨.optional (closed.lists_iff.mp lists).2 writes (closed.hasOptional optional), by simp⟩
  | own lists writes provides =>
      exact ⟨.own (closed.lists_iff.mp lists).2 writes (closed.provides provides), by simp⟩
  | enabled lists writes optional =>
      exact ⟨.enabled (closed.lists_iff.mp lists).2 writes (closed.hasOptional optional), by simp⟩
  | foreign lists writes member provides =>
      refine ⟨.foreign (closed.lists_iff.mp lists).2 writes (closed.mem_edges member)
        (closed.provides provides), ?_⟩
      simp [closed.chosen_of_mem member]
  | edge member asks =>
      refine ⟨.edge (closed.mem_edges member) (closed.asks asks), ?_⟩
      simp [closed.chosen_of_mem member]

theorem passing_le
    (closed : graph.ClosedPart chosen part) :
    part.featureGraph.Passing .everything ≤ graph.featureGraph.Passing chosen := by
  intro source target passing
  obtain ⟨link, hasArc, -⟩ := passing_iff.mp passing
  exact passing_iff.mpr ⟨link, closed.hasArc hasArc⟩

end ClosedPart

/-! ### What stands for a node -/

/-- A node needs another along at least one arc of any kind. -/
abbrev Requires (graph : PackageGraph) : FeatureId → FeatureId → Prop :=
  TransGen (graph.featureGraph.Passing .everything)

theorem HasArc.requires
    {source target : FeatureId}
    {link : Option Edge}
    (hasArc : graph.HasArc source target link) :
    graph.Requires source target :=
  .single (passing_iff.mpr ⟨link, hasArc, fun _ _ => rfl⟩)

/-- In a part, a node that is not lost stands for itself, and the base of the package for a lost
node. -/
def shadow
    (part : PackageGraph)
    (node : FeatureId) : FeatureId :=
  if node ∈ part.featureGraph.nodes then
    node
  else
    .base node.package

section Shadow

variable {node source : FeatureId}

theorem shadow_of_knows
    (knows : part.Knows node) :
    part.shadow node = node :=
  if_pos (mem_nodes_iff.mpr knows)

theorem shadow_of_not_knows
    (lost : ¬part.Knows node) :
    part.shadow node = .base node.package :=
  if_neg (mt mem_nodes_iff.mp lost)

@[simp] theorem shadow_base : part.shadow (.base id) = .base id :=
  ite_self _

@[simp] theorem package_shadow : (part.shadow node).package = node.package := by
  unfold shadow
  split
  · rfl
  · rfl

/-- A feature of the graph is needed in the part, or else the base of the package. -/
theorem Accepts.requires_shadow
    (accepts : graph.Accepts id feature)
    (direct : part.Provides id feature → part.Requires source (.named id feature))
    (toBase : part.Requires source (.base id)) :
    part.Requires source (part.shadow (.named id feature)) := by
  by_cases kept : part.Provides id feature
  · rw [shadow_of_knows (.feature kept)]
    exact direct kept
  · rw [shadow_of_not_knows (mt accepts.knows_named_iff.mp kept)]
    exact toBase

/-- An optional dependency is needed in the part, or else the base of the package. -/
theorem Unmarked.requires_shadow
    (unmarked : part.Unmarked)
    (direct : part.HasOptional id name → part.Requires source (.dependency id name))
    (toBase : part.Requires source (.base id)) :
    part.Requires source (part.shadow (.dependency id name)) := by
  by_cases kept : part.HasOptional id name
  · rw [shadow_of_knows (.dependency kept)]
    exact direct kept
  · rw [shadow_of_not_knows (mt unmarked.knows_dependency_iff.mp kept)]
    exact toBase

end Shadow

/-- A feature that asks for one of a dependency needs the base of the dependency: if it is optional,
by way of the node that stands for it, and otherwise by way of the package. -/
theorem requires_base_of_foreign
    {edge : Edge}
    {asked : String}
    (lists : graph.Lists edge.source feature target)
    (writes : FeatureTarget.ofText target = .foreign edge.name asked)
    (member : edge ∈ graph.edges) :
    graph.Requires (.named edge.source feature) (.base edge.target) := by
  have toTarget := (HasArc.edge member .base).requires
  by_cases isOptional : edge.isOptional = true
  · rw [Edge.origin, if_pos isOptional] at toTarget
    have enabled := HasArc.enabled lists writes ⟨edge, member, rfl, isOptional, rfl⟩
    exact enabled.requires.trans toTarget
  · rw [Edge.origin, if_neg isOptional] at toTarget
    exact (HasArc.feature lists.defines).requires.trans toTarget

namespace ClosedPart

variable {source target node : FeatureId}

/-! ### Nodes of the part -/

theorem requires_of_asks
    (closed : graph.ClosedPart chosen part)
    (unmarked : graph.Unmarked)
    {edge : Edge}
    (member : edge ∈ part.edges)
    (asks : graph.Asks edge node) :
    part.Requires edge.origin (part.shadow node) := by
  have toTarget := (HasArc.edge member .base).requires
  cases asks with
  | base =>
      rw [shadow_base]
      exact toTarget
  | default asked defines =>
      have kept : part.Defines edge.target "default" :=
        closed.defines_iff.mpr ⟨part.target_mem edge member, defines⟩
      rw [shadow_of_knows (.feature (Or.inl kept))]
      exact (HasArc.edge member (.default asked kept)).requires
  | requested asked provides =>
      apply (unmarked.accepts provides).requires_shadow _ toTarget
      intro kept
      exact (HasArc.edge member (.requested asked kept)).requires

/-- What a node of the part needs directly in the graph is stood for by what it needs in the part. -/
theorem requires_shadow
    (closed : graph.ClosedPart chosen part)
    (unmarked : graph.Unmarked)
    (kept : part.Knows source)
    (passing : graph.featureGraph.Passing chosen source target) :
    part.Requires source (part.shadow target) := by
  have inside : source.package ∈ part.ids := kept.mem_ids
  have unmarkedPart := closed.unmarked unmarked
  obtain ⟨link, hasArc, accepted⟩ := passing_iff.mp passing
  -- Arcs to bases are kept.  Any other arc is kept with its target, or else a kept one leads from
  -- its source to the base of its target.
  cases hasArc with
  | feature defines =>
      rw [shadow_base]
      exact (HasArc.feature (closed.defines_iff.mpr ⟨inside, defines⟩)).requires
  | dependency =>
      rw [shadow_base]
      exact (HasArc.dependency (unmarkedPart.knows_dependency_iff.mp kept)).requires
  | @implied id name optional undefined =>
      have undefinedPart : ¬part.Defines id name :=
        fun defines => undefined (closed.defines_iff.mp defines).2
      have stays : part.HasOptional id name :=
        ((unmarked.accepts (Or.inr optional)).knows_named_iff.mp kept).resolve_left undefinedPart
      rw [shadow_of_knows (.dependency stays)]
      exact (HasArc.implied stays undefinedPart).requires
  | @optional id feature target name lists writes =>
      have listsPart : part.Lists id feature target := closed.lists_iff.mpr ⟨inside, lists⟩
      apply unmarkedPart.requires_shadow _ (HasArc.feature listsPart.defines).requires
      intro stays
      exact (HasArc.optional listsPart writes stays).requires
  | @own id feature target name lists writes provides =>
      have listsPart : part.Lists id feature target := closed.lists_iff.mpr ⟨inside, lists⟩
      apply (unmarked.accepts provides).requires_shadow _
        (HasArc.feature listsPart.defines).requires
      intro stays
      exact (HasArc.own listsPart writes stays).requires
  | @enabled id feature target name asked lists writes =>
      have listsPart : part.Lists id feature target := closed.lists_iff.mpr ⟨inside, lists⟩
      apply unmarkedPart.requires_shadow _ (HasArc.feature listsPart.defines).requires
      intro stays
      exact (HasArc.enabled listsPart writes stays).requires
  | @foreign edge feature target asked lists writes member provides =>
      have listsPart : part.Lists edge.source feature target :=
        closed.lists_iff.mpr ⟨inside, lists⟩
      have memberPart : edge ∈ part.edges :=
        (closed.edges edge).mpr ⟨member, inside, accepted edge rfl⟩
      apply (unmarked.accepts provides).requires_shadow _
        (requires_base_of_foreign listsPart writes memberPart)
      intro stays
      exact (HasArc.foreign listsPart writes memberPart stays).requires
  | @edge edge _ member asks =>
      rw [edge.package_origin] at inside
      have memberPart : edge ∈ part.edges :=
        (closed.edges edge).mpr ⟨member, inside, accepted edge rfl⟩
      exact closed.requires_of_asks unmarked memberPart asks

/-! ### Lost nodes -/

/-- A lost node needs the base of its package directly, or a lost optional dependency. -/
theorem passing_of_lost
    (closed : graph.ClosedPart chosen part)
    (unmarked : graph.Unmarked)
    (inside : source.package ∈ part.ids)
    (lost : ¬part.Knows source)
    (passing : graph.featureGraph.Passing chosen source target) :
    target = .base source.package ∨
      ∃ id name,
        source = .named id name ∧
          target = .dependency id name ∧
            graph.HasOptional id name ∧
              ¬part.Knows target := by
  have defined :
      ∀ {id feature},
        id ∈ part.ids →
        graph.Defines id feature →
        part.Knows (.named id feature) :=
    fun kept defines => .feature (Or.inl (closed.defines_iff.mpr ⟨kept, defines⟩))
  obtain ⟨link, hasArc, accepted⟩ := passing_iff.mp passing
  cases hasArc with
  | feature defines =>
      exact absurd (defined inside defines) lost
  | dependency =>
      exact Or.inl rfl
  | @implied id name optional =>
      refine Or.inr ⟨id, name, rfl, rfl, optional, ?_⟩
      intro stays
      have kept := (closed.unmarked unmarked).knows_dependency_iff.mp stays
      exact lost (.feature (Or.inr kept))
  | optional lists =>
      exact absurd (defined inside lists.defines) lost
  | own lists =>
      exact absurd (defined inside lists.defines) lost
  | enabled lists =>
      exact absurd (defined inside lists.defines) lost
  | foreign lists =>
      exact absurd (defined inside lists.defines) lost
  | @edge edge _ member =>
      rw [edge.package_origin] at inside
      have memberPart : edge ∈ part.edges :=
        (closed.edges edge).mpr ⟨member, inside, accepted edge rfl⟩
      exact absurd (HasArc.edge memberPart .base).knows_source lost

/-- What a lost node needs directly is stood for as the lost node is. -/
theorem shadow_of_lost
    (closed : graph.ClosedPart chosen part)
    (unmarked : graph.Unmarked)
    (inside : source.package ∈ part.ids)
    (lost : ¬part.Knows source)
    (passing : graph.featureGraph.Passing chosen source target) :
    part.shadow target = part.shadow source := by
  rw [shadow_of_not_knows lost]
  rcases closed.passing_of_lost unmarked inside lost passing with
    rfl | ⟨id, name, rfl, rfl, -, lostTarget⟩
  · exact shadow_base
  · exact shadow_of_not_knows lostTarget

/-- No lost node is needed by way of two others. -/
theorem passing_of_lost_dependency
    (closed : graph.ClosedPart chosen part)
    (unmarked : graph.Unmarked)
    (inside : id ∈ part.ids)
    (lost : ¬part.Knows (.dependency id name))
    (passing : graph.featureGraph.Passing chosen (.dependency id name) target) :
    target = .base id := by
  rcases closed.passing_of_lost unmarked inside lost passing with
    toBase | ⟨other, otherName, same, -, optional, -⟩
  · exact toBase
  · obtain ⟨rfl, sameName⟩ := FeatureId.mk.inj same
    obtain rfl := Option.some.inj sameName
    exact absurd (Or.inr optional) unmarked.not_provides

/-! ### Paths -/

/-- What a node of the part needs in the graph is stood for by what it needs in the part. -/
theorem requires_of_path
    (closed : graph.ClosedPart chosen part)
    (unmarked : graph.Unmarked)
    (kept : part.Knows source)
    (path : TransGen (graph.featureGraph.Passing chosen) source target) :
    part.Requires source (part.shadow target) := by
  -- The path is followed from its start.  Behind a lost node it goes on where the base of the
  -- package has been reached already.
  induction path with
  | single passing =>
      exact closed.requires_shadow unmarked kept passing
  | @tail middle target _ passing inductionHypothesis =>
      by_cases stays : part.Knows middle
      · rw [shadow_of_knows stays] at inductionHypothesis
        exact inductionHypothesis.trans (closed.requires_shadow unmarked stays passing)
      · have inside : middle.package ∈ part.ids := by
          simpa using (kept.of_needs inductionHypothesis.to_reflTransGen).mem_ids
        rw [closed.shadow_of_lost unmarked inside stays passing]
        exact inductionHypothesis

/-- A node of the part needs in the part what stands for each node that it needs in the graph. -/
theorem needs_shadow
    (closed : graph.ClosedPart chosen part)
    (unmarked : graph.Unmarked)
    (kept : part.Knows source)
    (path : graph.featureGraph.Needs chosen source target) :
    part.featureGraph.Needs .everything source (part.shadow target) := by
  rcases Relation.reflTransGen_iff_eq_or_transGen.mp path with rfl | path
  · rw [shadow_of_knows kept]
  · exact (closed.requires_of_path unmarked kept path).to_reflTransGen

/-- A lost node that needs itself needs the base of its package, which then needs itself. -/
theorem turn_of_lost
    (closed : graph.ClosedPart chosen part)
    (unmarked : graph.Unmarked)
    (inside : node.package ∈ part.ids)
    (lost : ¬part.Knows node)
    (turn : TransGen (graph.featureGraph.Passing chosen) node node) :
    graph.featureGraph.Needs chosen node (.base node.package) ∧
      TransGen (graph.featureGraph.Passing chosen) (.base node.package) (.base node.package) := by
  obtain ⟨second, first, back⟩ := TransGen.head'_iff.mp turn
  rcases closed.passing_of_lost unmarked inside lost first with
    rfl | ⟨id, name, rfl, rfl, -, lostSecond⟩
  · exact ⟨.single first, .tail' back first⟩
  · have turnSecond := TransGen.tail' back first
    obtain ⟨third, next, backSecond⟩ := TransGen.head'_iff.mp turnSecond
    obtain rfl := closed.passing_of_lost_dependency unmarked inside lostSecond next
    exact ⟨.tail (.single first) next, .tail' backSecond next⟩

/-! ### What parts and graphs agree on -/

/-- A node of the part needs nodes of the same packages in the part and in the graph. -/
theorem exists_needs_iff
    (closed : graph.ClosedPart chosen part)
    (unmarked : graph.Unmarked)
    (kept : part.Knows source) :
    (∃ node, part.featureGraph.Needs .everything source node ∧ node.package = id) ↔
      ∃ node, graph.featureGraph.Needs chosen source node ∧ node.package = id := by
  constructor
  · intro needed
    obtain ⟨node, path, same⟩ := needed
    exact ⟨node, ReflTransGen.mono closed.passing_le _ _ path, same⟩
  · intro needed
    obtain ⟨node, path, same⟩ := needed
    exact ⟨part.shadow node, closed.needs_shadow unmarked kept path, package_shadow.trans same⟩

/-- A node of the part needs something that needs itself in the part if and only if it does in the
graph. -/
theorem exists_turn_iff
    (closed : graph.ClosedPart chosen part)
    (unmarked : graph.Unmarked)
    (kept : part.Knows source) :
    (∃ node,
      part.featureGraph.Needs .everything source node ∧ part.Requires node node) ↔
      ∃ node,
        graph.featureGraph.Needs chosen source node ∧
          TransGen (graph.featureGraph.Passing chosen) node node := by
  constructor
  · intro needed
    obtain ⟨node, path, turn⟩ := needed
    exact ⟨node, ReflTransGen.mono closed.passing_le _ _ path,
      TransGen.mono closed.passing_le _ _ turn⟩
  · intro needed
    obtain ⟨node, path, turn⟩ := needed
    -- Lost nodes are on no cycle of their own: the base of the package is on it as well.
    have turnKept :
        ∃ other,
          part.Knows other ∧
            graph.featureGraph.Needs chosen source other ∧
              TransGen (graph.featureGraph.Passing chosen) other other := by
      by_cases keptNode : part.Knows node
      · exact ⟨node, keptNode, path, turn⟩
      · have inside : node.package ∈ part.ids := by
          simpa using (kept.of_needs (closed.needs_shadow unmarked kept path)).mem_ids
        obtain ⟨toBase, turnBase⟩ := closed.turn_of_lost unmarked inside keptNode turn
        exact ⟨.base node.package, .base inside, path.trans toBase, turnBase⟩
    obtain ⟨other, keptOther, pathOther, turnOther⟩ := turnKept
    have needs := closed.needs_shadow unmarked kept pathOther
    have requires := closed.requires_of_path unmarked keptOther turnOther
    rw [shadow_of_knows keptOther] at needs requires
    exact ⟨other, needs, requires⟩

end ClosedPart

end CargoDeps.PackageGraph
