import CargoDeps.Proofs.Feature.Arcs

namespace CargoDeps.PackageGraph

/-!
# The feature graph tells the rules

A set of nodes keeps to the rules of activation if and only if no arc that counts leads out of it.
Each kind of arc tells one part of one rule.
-/

variable {graph : PackageGraph} {chosen : EdgePredicate} {nodes : Set FeatureId} {edge : Edge}
  {node source target : FeatureId}

/-! ### Sets that keep to the rules -/

theorem Applies.mem_of_asks
    (applies : graph.Applies nodes edge)
    (asks : graph.Asks edge node) :
    node ∈ nodes := by
  cases asks with
  | base =>
      exact applies.base
  | default asked defines =>
      exact applies.default asked defines
  | requested asked provides =>
      exact applies.requested _ asked provides

namespace ActivationClosed

/-- A chosen edge is applied if the node that it starts from is on. -/
theorem applies_edge
    (closed : graph.ActivationClosed chosen nodes)
    (member : edge ∈ graph.edges)
    (accepted : chosen edge = true)
    (reached : edge.origin ∈ nodes) :
    graph.Applies nodes edge := by
  unfold Edge.origin at reached
  split at reached
  · next isOptional =>
      have turned := closed.dependency _ _ ⟨edge, member, rfl, isOptional, rfl⟩ reached
      exact turned.2 edge member rfl isOptional rfl accepted
  · next isRequired =>
      exact closed.base _ reached edge member rfl (Bool.eq_false_iff.mpr isRequired) accepted

/-- The target of a feature that is on is on. -/
theorem turnsOn
    (closed : graph.ActivationClosed chosen nodes)
    {id : PackageId}
    {feature target : String}
    (lists : graph.Lists id feature target)
    (reached : .named id feature ∈ nodes) :
    graph.TurnsOn chosen nodes id target :=
  (closed.feature id feature lists.defines reached).2 target lists

theorem turnsOnForeign
    (closed : graph.ActivationClosed chosen nodes)
    {id : PackageId}
    {feature target name part : String}
    (lists : graph.Lists id feature target)
    (writes : FeatureTarget.ofText target = .foreign name part)
    (reached : .named id feature ∈ nodes) :
    graph.TurnsOnForeign chosen nodes id name part := by
  obtain ⟨shape, unmarked, first, firm⟩ := FeatureTarget.ofText_eq_foreign_iff.mp writes
  exact (closed.turnsOn lists reached).foreign
    (FeatureId.isDependencyName_eq_false_iff.mp unmarked) name part shape first firm

/-- No arc that counts leads out of a set that keeps to the rules. -/
theorem mem_of_passing
    (closed : graph.ActivationClosed chosen nodes)
    (reached : source ∈ nodes)
    (passing : graph.featureGraph.Passing chosen source target) :
    target ∈ nodes := by
  obtain ⟨link, hasArc, accepted⟩ := passing_iff.mp passing
  cases hasArc with
  | feature defines =>
      exact (closed.feature _ _ defines reached).1
  | dependency optional =>
      exact (closed.dependency _ _ optional reached).1
  | implied optional undefined =>
      exact closed.implied _ _ optional undefined reached
  | optional lists writes optional =>
      obtain rfl := FeatureTarget.eq_of_ofText_dependency writes
      exact (closed.turnsOn lists reached).dependency _ rfl optional
  | own lists writes provides =>
      obtain ⟨rfl, unmarked, whole⟩ := FeatureTarget.ofText_eq_own_iff.mp writes
      have plain := FeatureId.isDependencyName_eq_false_iff.mp unmarked
      exact (closed.turnsOn lists reached).own plain whole provides
  | enabled lists writes optional =>
      exact (closed.turnsOnForeign lists writes reached).dependency optional
  | @foreign edge _ _ _ lists writes member provides =>
      exact (closed.turnsOnForeign lists writes reached).named edge member rfl rfl
        (accepted edge rfl) provides
  | @edge edge _ member asks =>
      exact (closed.applies_edge member (accepted edge rfl) reached).mem_of_asks asks

end ActivationClosed

/-! ### Sets that no arc leads out of -/

section Kept

variable
  (kept :
    ∀ source ∈ nodes, ∀ target,
      graph.featureGraph.Passing chosen source target → target ∈ nodes)

include kept

theorem mem_of_inner
    (reached : source ∈ nodes)
    (hasArc : graph.HasArc source target none) :
    target ∈ nodes :=
  kept source reached target (passing_iff.mpr ⟨none, hasArc, by simp⟩)

theorem mem_of_linked
    (accepted : chosen edge = true)
    (reached : source ∈ nodes)
    (hasArc : graph.HasArc source target (some edge)) :
    target ∈ nodes :=
  kept source reached target (passing_iff.mpr ⟨some edge, hasArc, by simp [accepted]⟩)

theorem applies_of_kept
    (member : edge ∈ graph.edges)
    (accepted : chosen edge = true)
    (reached : edge.origin ∈ nodes) :
    graph.Applies nodes edge where
  base := mem_of_linked kept accepted reached (.edge member .base)
  default asked defines :=
    mem_of_linked kept accepted reached (.edge member (.default asked defines))
  requested _ asked provides :=
    mem_of_linked kept accepted reached (.edge member (.requested asked provides))

theorem turnsOn_of_kept
    {id : PackageId}
    {feature target : String}
    (lists : graph.Lists id feature target)
    (reached : .named id feature ∈ nodes) :
    graph.TurnsOn chosen nodes id target where
  dependency := by
    intro name marked optional
    obtain rfl := marked
    exact mem_of_inner kept reached
      (.optional lists (FeatureTarget.ofText_dependency name) optional)
  foreign := by
    intro plain name part shape first firm
    have writes : FeatureTarget.ofText target = .foreign name part :=
      FeatureTarget.ofText_eq_foreign_iff.mpr
        ⟨shape, FeatureId.isDependencyName_eq_false_iff.mpr plain, first, firm⟩
    constructor
    · intro optional
      exact mem_of_inner kept reached (.enabled lists writes optional)
    · intro edge member leaves called accepted provides
      obtain rfl := leaves
      obtain rfl := called
      exact mem_of_linked kept accepted reached (.foreign lists writes member provides)
  own := by
    intro plain whole provides
    have writes : FeatureTarget.ofText target = .own target :=
      FeatureTarget.ofText_own (FeatureId.isDependencyName_eq_false_iff.mpr plain) whole
    exact mem_of_inner kept reached (.own lists writes provides)

/-- A set keeps to the rules if no arc that counts leads out of it. -/
theorem activationClosed_of_kept : graph.ActivationClosed chosen nodes where
  base := by
    intro id reached edge member leaves isRequired accepted
    apply applies_of_kept kept member accepted
    rw [Edge.origin, isRequired, leaves]
    exact reached
  dependency := by
    intro id name optional reached
    refine ⟨mem_of_inner kept reached (.dependency optional), ?_⟩
    intro edge member leaves isOptional called accepted
    apply applies_of_kept kept member accepted
    rw [Edge.origin, isOptional, leaves, called]
    exact reached
  implied := by
    intro id name optional undefined reached
    exact mem_of_inner kept reached (.implied optional undefined)
  feature := by
    intro id feature defines reached
    refine ⟨mem_of_inner kept reached (.feature defines), ?_⟩
    intro target lists
    exact turnsOn_of_kept kept lists reached

end Kept

/-- A set of nodes keeps to the rules if and only if no arc that counts leads out of it. -/
theorem activationClosed_iff :
    graph.ActivationClosed chosen nodes ↔
      ∀ source ∈ nodes, ∀ target,
        graph.featureGraph.Passing chosen source target → target ∈ nodes := by
  constructor
  · intro closed source reached target passing
    exact closed.mem_of_passing reached passing
  · intro kept
    exact activationClosed_of_kept kept

end CargoDeps.PackageGraph
