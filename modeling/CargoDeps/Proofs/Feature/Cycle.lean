import CargoDeps.Proofs.Feature.Projection
import CargoDeps.Proofs.Query.Dependence

namespace CargoDeps.PackageGraph

/-!
# Where cycles of features come from

A cycle of features that leaves a package comes back to it along chosen edges, so it lies on a cycle
of packages.  Where there is none, it stays in one package and follows the feature table alone.  In
turn, packages that need themselves along edges that are not optional make a cycle of their bases.
-/

open Relation (ReflTransGen TransGen)

variable {graph : PackageGraph} {chosen : EdgePredicate} {package : PackageId}
  {requested : List String} {cycle : List FeatureId}

/-- The cycle that an activation tells of is one. -/
theorem isCycle_of_activate
    (known : package ∈ graph.ids)
    (accepted : ∀ feature ∈ requested, graph.Accepts package feature)
    (fails :
      graph.featureGraph.activate package requested chosen = .error (.walk (.cycle cycle))) :
    Digraph.IsCycle (graph.featureGraph.Passing chosen) cycle := by
  obtain ⟨-, closureFails⟩ := FeatureGraph.activate_eq_walk_iff.mp fails
  have loops := FeatureGraph.loops_of_closure (activationStarts_subset known accepted) closureFails
  rw [← FeatureGraph.arrow_successors]
  exact loops.isCycle

/-- Where no chosen edges make a cycle, a cycle of features has no arcs of dependency edges. -/
theorem inner_of_isCycle
    (acyclic : graph.findCycles chosen = [])
    (isCycle : Digraph.IsCycle (graph.featureGraph.Passing chosen) cycle) :
    Digraph.IsCycle graph.featureGraph.Inner cycle := by
  apply isCycle.imp
  intro source sourceMember target targetMember passing
  rcases inner_or_links_of_passing passing with inner | links
  · exact inner
  · have back := leads_of_needs (isCycle.reaches targetMember sourceMember)
    obtain ⟨found, member, -⟩ := exists_mem_members_iff.mpr (TransGen.head' links back)
    rw [acyclic] at member
    cases member

theorem package_eq_of_inner
    {source target : FeatureId}
    (path : ReflTransGen graph.featureGraph.Inner source target) :
    source.package = target.package := by
  induction path with
  | refl =>
      rfl
  | tail _ inner inductionHypothesis =>
      exact inductionHypothesis.trans (inner_iff.mp inner).package_eq

/-- A cycle without arcs of dependency edges stays in one package, away from its base. -/
theorem package_of_inner_cycle
    (isCycle : Digraph.IsCycle graph.featureGraph.Inner cycle) :
    ∃ id, ∀ node ∈ cycle, node.package = id ∧ node.isBase = false := by
  refine ⟨(cycle.head isCycle.ne_nil).package, ?_⟩
  intro node member
  constructor
  · exact package_eq_of_inner (isCycle.reaches member (List.head_mem isCycle.ne_nil))
  · obtain ⟨next, inner, -⟩ := TransGen.head'_iff.mp (isCycle.transGen member)
    exact (inner_iff.mp inner).isBase_eq_false

/-- Where a package that is needed needs itself, along edges that are not optional, the activation
meets a cycle. -/
theorem activate_cycle_of_dependsOn
    (known : package ∈ graph.ids)
    (accepted : ∀ feature ∈ requested, graph.Accepts package feature)
    {id : PackageId}
    (path : graph.Leads chosen.required package id)
    (depends : graph.dependsOn id id chosen.required = true) :
    ∃ cycle,
      graph.featureGraph.activate package requested chosen = .error (.walk (.cycle cycle)) := by
  apply (activate_cycle_iff known accepted).mpr
  have turn : TransGen (graph.featureGraph.Passing chosen) (.base id) (.base id) :=
    TransGen.lift FeatureId.base (fun _ _ links => passing_base_of_links links) _ _
      (dependsOn_iff.mp depends)
  exact ⟨.base package, List.mem_cons_self, .base id, needs_base_of_leads path, turn⟩

/--
Where chosen edges make no cycle of packages, a cycle that an activation meets is one of arcs in a
single package, and the base of the package is not on it.

Where edges that are chosen and not optional reach from the package one that depends on itself along
such edges, every activation meets a cycle.
-/
theorem activate_cycle_explained
    (graph : PackageGraph)
    (package : PackageId)
    (requested : List String)
    (chosen : EdgePredicate)
    (known : package ∈ graph.ids)
    (accepted : ∀ feature ∈ requested, graph.Accepts package feature) :
    (graph.findCycles chosen = [] →
      ∀ cycle,
        graph.featureGraph.activate package requested chosen = .error (.walk (.cycle cycle)) →
          (∃ id, ∀ node ∈ cycle, node.package = id ∧ node.isBase = false) ∧
            Digraph.IsCycle graph.featureGraph.Inner cycle) ∧
    ∀ result,
      graph.query [package] .forward chosen.required = .ok result →
        (∃ id ∈ result.ids, graph.dependsOn id id chosen.required = true) →
          ∃ cycle,
            graph.featureGraph.activate package requested chosen =
              .error (.walk (.cycle cycle)) := by
  constructor
  · intro acyclic cycle fails
    have inner := inner_of_isCycle acyclic (isCycle_of_activate known accepted fails)
    exact ⟨package_of_inner_cycle inner, inner⟩
  · intro result finds found
    obtain ⟨id, isReached, depends⟩ := found
    obtain ⟨rootsKnown, rfl⟩ := query_eq_ok_iff.mp finds
    obtain ⟨root, isRoot, path⟩ := (mem_ids_reachFrom rootsKnown).mp isReached
    obtain rfl := List.mem_singleton.mp isRoot
    exact activate_cycle_of_dependsOn known accepted path depends

/-- The two features that need each other make a cycle inside their package, and the two packages
that depend on each other one for `app`, which needs them. -/
theorem activate_cycle_pingPong_paired :
    let pingPong := FeatureGraph.pingPong
    let pingPongId := FeatureGraph.pingPongId
    pingPongId ∈ pingPong.ids ∧
      (∀ feature ∈ ["ping"], pingPong.Accepts pingPongId feature) ∧
      pingPong.findCycles .everything = [] ∧
      (∃ cycle,
        pingPong.featureGraph.activate pingPongId ["ping"] .everything =
            .error (.walk (.cycle cycle)) ∧
          (∃ id, ∀ node ∈ cycle, node.package = id ∧ node.isBase = false) ∧
            Digraph.IsCycle pingPong.featureGraph.Inner cycle) ∧
      Paired.app ∈ Paired.sample.ids ∧
      (∃ result,
        Paired.sample.query [Paired.app] .forward (EdgePredicate.required .everything) =
            .ok result ∧
          Paired.lib ∈ result.ids ∧
            Paired.sample.dependsOn Paired.lib Paired.lib
              (EdgePredicate.required .everything) = true) ∧
      ∃ cycle,
        Paired.sample.featureGraph.activate Paired.app [] .everything =
          .error (.walk (.cycle cycle)) := by
  intro pingPong pingPongId
  have known : pingPongId ∈ pingPong.ids := by
    decide
  have accepted : ∀ feature ∈ ["ping"], pingPong.Accepts pingPongId feature := by
    intro feature member
    obtain rfl : feature = "ping" := List.mem_singleton.mp member
    exact isRequestable_iff.mp (by decide +kernel)
  have acyclic : pingPong.findCycles .everything = [] := by
    apply List.eq_nil_of_length_eq_zero
    decide +kernel
  have fails :
      pingPong.featureGraph.activate pingPongId ["ping"] .everything =
        .error (.walk (.cycle [.named pingPongId "ping", .named pingPongId "pong"])) := by
    decide +kernel
  have appKnown : Paired.app ∈ Paired.sample.ids := by
    decide
  have finds :
      Paired.sample.query [Paired.app] .forward (EdgePredicate.required .everything) =
        .ok (Paired.sample.reachFrom [Paired.app] .forward
          (EdgePredicate.required .everything)) :=
    rfl
  have isReached :
      Paired.lib ∈
        (Paired.sample.reachFrom [Paired.app] .forward
          (EdgePredicate.required .everything)).ids := by
    decide +kernel
  have depends :
      Paired.sample.dependsOn Paired.lib Paired.lib (EdgePredicate.required .everything) =
        true := by
    decide +kernel
  obtain ⟨inside, -⟩ :=
    activate_cycle_explained pingPong pingPongId ["ping"] .everything known accepted
  obtain ⟨-, always⟩ :=
    activate_cycle_explained Paired.sample Paired.app [] .everything appKnown
      (List.forall_mem_nil _)
  exact ⟨known, accepted, acyclic, ⟨_, fails, inside acyclic _ fails⟩, appKnown,
    ⟨_, finds, isReached, depends⟩, always _ finds ⟨_, isReached, depends⟩⟩

end CargoDeps.PackageGraph
