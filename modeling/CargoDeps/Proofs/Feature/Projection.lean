import CargoDeps.Proofs.Feature.Activation
import CargoDeps.Proofs.Query.Reach

namespace CargoDeps

/-!
# The packages behind features

An arc of the feature graph that comes from a dependency edge leads from the source of the edge to
its target, and any other arc stays in one package.  So paths of features project to paths of
packages.  In the other direction, a path of edges that are not optional lifts to the bases of its
packages.  What is activated lies between the two.
-/

/-- The chosen edges that are not optional. -/
def EdgePredicate.required (chosen : EdgePredicate) : EdgePredicate :=
  fun edge => !edge.isOptional && chosen edge

/-- An arc that no dependency edge causes leads from one node to another. -/
def FeatureGraph.Inner
    (graph : FeatureGraph)
    (source target : FeatureId) : Prop :=
  ∃ arc ∈ graph.arcs,
    arc.source = source ∧
      arc.target = target ∧
        arc.link = none

namespace PackageGraph

open Relation (ReflTransGen)

variable {graph : PackageGraph} {chosen : EdgePredicate} {package : PackageId}
  {requested : List String}

/-! ### Arcs and packages -/

theorem Asks.package_eq
    {edge : Edge}
    {node : FeatureId}
    (asks : graph.Asks edge node) :
    node.package = edge.target := by
  cases asks <;> rfl

namespace HasArc

variable {source target : FeatureId}

/-- An arc of no dependency edge stays in its package. -/
theorem package_eq
    (hasArc : graph.HasArc source target none) :
    source.package = target.package := by
  cases hasArc <;> rfl

/-- No arc leads out of a base but for those of dependency edges. -/
theorem isBase_eq_false
    (hasArc : graph.HasArc source target none) :
    source.isBase = false := by
  cases hasArc <;> rfl

/-- An arc of a dependency edge leads from the source of the edge to its target. -/
theorem ends_eq
    {edge : Edge}
    (hasArc : graph.HasArc source target (some edge)) :
    edge ∈ graph.edges ∧ edge.source = source.package ∧ edge.target = target.package := by
  cases hasArc with
  | foreign _ _ member =>
      exact ⟨member, rfl, rfl⟩
  | edge member asks =>
      exact ⟨member, edge.package_origin.symm, asks.package_eq.symm⟩

end HasArc

theorem inner_iff
    {source target : FeatureId} :
    graph.featureGraph.Inner source target ↔ graph.HasArc source target none := by
  constructor
  · intro inner
    obtain ⟨arc, listed, rfl, rfl, noLink⟩ := inner
    exact noLink ▸ mem_arcs_iff.mp listed
  · intro hasArc
    exact ⟨⟨source, target, none⟩, mem_arcs_iff.mpr hasArc, rfl, rfl, rfl⟩

/-- An arc that counts stays in its package, or a chosen edge leads where it does. -/
theorem inner_or_links_of_passing
    {source target : FeatureId}
    (passing : graph.featureGraph.Passing chosen source target) :
    graph.featureGraph.Inner source target ∨
      graph.Links chosen source.package target.package := by
  obtain ⟨link, hasArc, accepted⟩ := passing_iff.mp passing
  cases link with
  | none =>
      exact Or.inl (inner_iff.mpr hasArc)
  | some edge =>
      obtain ⟨member, fromSource, toTarget⟩ := hasArc.ends_eq
      exact Or.inr ⟨edge, member, fromSource, toTarget, accepted edge rfl⟩

/-! ### Paths and packages -/

/-- What a node needs is in packages that chosen edges lead to. -/
theorem leads_of_needs
    {source target : FeatureId}
    (path : graph.featureGraph.Needs chosen source target) :
    graph.Leads chosen source.package target.package := by
  induction path with
  | refl =>
      exact .refl
  | tail _ passing inductionHypothesis =>
      rcases inner_or_links_of_passing passing with inner | links
      · rw [← (inner_iff.mp inner).package_eq]
        exact inductionHypothesis
      · exact inductionHypothesis.tail links

/-- Along a chosen edge that is not optional, the base of a package needs that of another. -/
theorem passing_base_of_links
    {source target : PackageId}
    (links : graph.Links chosen.required source target) :
    graph.featureGraph.Passing chosen (.base source) (.base target) := by
  obtain ⟨edge, member, rfl, rfl, accepted⟩ := links
  simp only [EdgePredicate.required, Bool.and_eq_true, Bool.not_eq_true'] at accepted
  obtain ⟨isRequired, isChosen⟩ := accepted
  have origin : edge.origin = .base edge.source :=
    if_neg (Bool.eq_false_iff.mp isRequired)
  refine passing_iff.mpr ⟨some edge, origin ▸ HasArc.edge member .base, ?_⟩
  intro other same
  exact Option.some.inj same ▸ isChosen

/-- The base of a package needs the bases of all that chosen edges lead to that are not optional. -/
theorem needs_base_of_leads
    {source target : PackageId}
    (path : graph.Leads chosen.required source target) :
    graph.featureGraph.Needs chosen (.base source) (.base target) :=
  ReflTransGen.lift FeatureId.base (fun _ _ links => passing_base_of_links links) _ _ path

/-! ### What is activated -/

/-- What activates has a package of the graph and features that can be asked for. -/
theorem accepts_of_activate
    {ids : List FeatureId}
    (returns : graph.featureGraph.activate package requested chosen = .ok ids) :
    package ∈ graph.ids ∧ ∀ feature ∈ requested, graph.Accepts package feature := by
  obtain ⟨requestable, result, closes, -⟩ := FeatureGraph.activate_eq_ok_iff.mp returns
  have baseMember : .base package ∈ graph.featureGraph.nodes :=
    FeatureGraph.known_of_closure closes List.mem_cons_self
  refine ⟨(mem_nodes_iff.mp baseMember).mem_ids, ?_⟩
  intro feature asked
  exact isRequestable_iff.mp (requestable feature asked)

/-- Where packages are activated, what is activated has a package of the graph and features that can
be asked for, and the packages are those of what is needed. -/
theorem mem_activatePackages_iff
    {packages : List PackageId}
    (returns : graph.featureGraph.activatePackages package requested chosen = .ok packages) :
    package ∈ graph.ids ∧
      (∀ feature ∈ requested, graph.Accepts package feature) ∧
        ∀ id,
          id ∈ packages ↔
            ∃ start ∈ activationStarts package requested, ∃ node,
              graph.featureGraph.Needs chosen start node ∧ node.package = id := by
  have conditions : package ∈ graph.ids ∧ ∀ feature ∈ requested, graph.Accepts package feature := by
    cases activates : graph.featureGraph.activate package requested chosen with
    | error error =>
        cases returns.symm.trans (FeatureGraph.activatePackages_error_iff.mpr activates)
    | ok ids =>
        exact accepts_of_activate activates
  obtain ⟨known, accepted⟩ := conditions
  refine ⟨known, accepted, ?_⟩
  rcases activatePackages_ok_or_cycle known accepted with
    ⟨listed, same, needed⟩ | ⟨cycle, fails⟩
  · obtain rfl := Except.ok.inj (returns.symm.trans same)
    intro id
    rw [Sequence.mem_sorted, Sequence.mem_distinct, needed]
  · cases returns.symm.trans fails

theorem package_of_mem_activationStarts
    {start : FeatureId}
    (isStart : start ∈ activationStarts package requested) :
    start.package = package := by
  rcases List.mem_cons.mp isStart with rfl | isFeature
  · rfl
  · obtain ⟨feature, -, rfl⟩ := List.mem_map.mp isFeature
    rfl

/--
The packages that are activated lie between two queries: all that chosen edges that are not optional
reach from the package are activated, and nothing but what chosen edges reach from it.
-/
theorem activatePackages_between_queries
    (graph : PackageGraph)
    (package : PackageId)
    (requested : List String)
    (chosen : EdgePredicate)
    (packages : List PackageId)
    (returns : graph.featureGraph.activatePackages package requested chosen = .ok packages) :
    ∃ required reached,
      graph.query [package] .forward chosen.required = .ok required ∧
        graph.query [package] .forward chosen = .ok reached ∧
          required.ids ⊆ packages ∧
            packages ⊆ reached.ids := by
  obtain ⟨known, -, activated⟩ := mem_activatePackages_iff returns
  have rootsKnown : [package] ⊆ graph.ids := List.cons_subset.mpr ⟨known, List.nil_subset _⟩
  refine ⟨_, _, query_eq_ok_iff.mpr ⟨rootsKnown, rfl⟩, query_eq_ok_iff.mpr ⟨rootsKnown, rfl⟩,
    ?_, ?_⟩
  · intro id isReached
    obtain ⟨root, isRoot, path⟩ := (mem_ids_reachFrom rootsKnown).mp isReached
    obtain rfl := List.mem_singleton.mp isRoot
    exact (activated id).mpr
      ⟨.base root, List.mem_cons_self, .base id, needs_base_of_leads path, rfl⟩
  · intro id isActivated
    obtain ⟨start, isStart, node, needs, rfl⟩ := (activated id).mp isActivated
    have path := leads_of_needs needs
    rw [package_of_mem_activationStarts isStart] at path
    exact (mem_ids_reachFrom rootsKnown).mpr ⟨package, List.mem_singleton_self _, path⟩

/-- Without features, logging is not activated, which an optional edge reaches, but `core` is. -/
theorem activatePackages_between_logging :
    Logging.sample.featureGraph.activatePackages Logging.server [] .everything =
        .ok [Logging.core, Logging.server] ∧
      ∃ required reached,
        Logging.sample.query [Logging.server] .forward (EdgePredicate.required .everything) =
            .ok required ∧
          Logging.sample.query [Logging.server] .forward .everything = .ok reached ∧
            required.ids = [Logging.server, Logging.core] ∧
              Logging.log ∈ reached.ids ∧
                required.ids ⊆ [Logging.core, Logging.server] ∧
                  [Logging.core, Logging.server] ⊆ reached.ids := by
  have returns :
      Logging.sample.featureGraph.activatePackages Logging.server [] .everything =
        .ok [Logging.core, Logging.server] := by
    decide +kernel
  obtain ⟨required, reached, findsRequired, finds, lower, upper⟩ :=
    activatePackages_between_queries Logging.sample Logging.server [] .everything _ returns
  obtain ⟨-, rfl⟩ := query_eq_ok_iff.mp findsRequired
  obtain ⟨-, rfl⟩ := query_eq_ok_iff.mp finds
  exact ⟨returns, _, _, findsRequired, finds, by decide +kernel, by decide +kernel, lower, upper⟩

end PackageGraph

end CargoDeps
