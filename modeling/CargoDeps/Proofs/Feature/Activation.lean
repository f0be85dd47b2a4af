import CargoDeps.Proofs.Feature.Derivation
import CargoDeps.Proofs.Feature.Nodes
import CargoDeps.Proofs.Order
import Mathlib.Order.Bounds.Basic

namespace CargoDeps

/-!
# What is activated

The features that a selection activates are the least set that has the base of the package and the
requested features in it and keeps to the rules of activation.
-/

namespace FeatureGraph

variable {graph : FeatureGraph} {chosen : EdgePredicate}

/-- What some nodes need is the least set around them that no arc that counts leads out of. -/
theorem isLeast_needs
    (starts : List FeatureId) :
    IsLeast
      {nodes : Set FeatureId |
        (∀ start ∈ starts, start ∈ nodes) ∧
          ∀ source ∈ nodes, ∀ target, graph.Passing chosen source target → target ∈ nodes}
      {node | ∃ start ∈ starts, graph.Needs chosen start node} := by
  refine ⟨⟨fun start member => ⟨start, member, .refl⟩, ?_⟩, ?_⟩
  · rintro source ⟨start, member, path⟩ target arc
    exact ⟨start, member, path.tail arc⟩
  · rintro nodes ⟨startsIn, kept⟩ node ⟨start, member, path⟩
    induction path with
    | refl =>
        exact startsIn start member
    | tail _ arc inductionHypothesis =>
        exact kept _ inductionHypothesis _ arc

/-- Where all features can be asked for, what is activated is the closure of their nodes. -/
theorem activate_eq
    {package : PackageId}
    {requested : List String}
    (requestable : ∀ feature ∈ requested, graph.isRequestable package feature = true) :
    graph.activate package requested chosen =
      ((graph.closure (.base package :: requested.map (.named package)) chosen).map
        FeatureId.ascending).mapError .walk := by
  have nothing : (requested.find? fun feature => !graph.isRequestable package feature) = none := by
    apply List.find?_eq_none.mpr
    intro feature member
    simp [requestable feature member]
  rw [activate, nothing]

/-! ### How an activation ends -/

section Outcome

variable {package : PackageId} {requested : List String}

/-- The first of the requested features that cannot be asked for. -/
def firstRefused?
    (graph : FeatureGraph)
    (package : PackageId)
    (requested : List String) : Option String :=
  requested.find? fun feature => !graph.isRequestable package feature

theorem firstRefused?_eq_none_iff :
    graph.firstRefused? package requested = none ↔
      ∀ feature ∈ requested, graph.isRequestable package feature = true := by
  simp [firstRefused?, List.find?_eq_none]

theorem activate_of_refused
    {feature : String}
    (refused : graph.firstRefused? package requested = some feature) :
    graph.activate package requested chosen = .error (.undefinedFeature package feature) := by
  rw [firstRefused?] at refused
  rw [activate, refused]

/-- An activation gives the closure of the requested features, in ascending order. -/
theorem activate_eq_ok_iff
    {ids : List FeatureId} :
    graph.activate package requested chosen = .ok ids ↔
      (∀ feature ∈ requested, graph.isRequestable package feature = true) ∧
        ∃ result,
          graph.closure (.base package :: requested.map (.named package)) chosen = .ok result ∧
            FeatureId.ascending result = ids := by
  rw [← firstRefused?_eq_none_iff]
  cases refused : graph.firstRefused? package requested with
  | some feature =>
      simp [activate_of_refused refused]
  | none =>
      rw [activate_eq (firstRefused?_eq_none_iff.mp refused)]
      cases graph.closure (.base package :: requested.map (.named package)) chosen <;>
        simp [Except.map, Except.mapError]

/-- What is activated is listed once and in ascending order. -/
theorem pairwise_lt_of_activate
    {ids : List FeatureId}
    (returns : graph.activate package requested chosen = .ok ids) :
    ids.Pairwise (· < ·) := by
  obtain ⟨-, result, closes, rfl⟩ := activate_eq_ok_iff.mp returns
  exact Sequence.pairwise_lt_sorted FeatureId.before_iff_lt (nodup_of_closure closes)

/-- An activation fails on the way where the closure of the requested features does. -/
theorem activate_eq_walk_iff
    {error : WalkError} :
    graph.activate package requested chosen = .error (.walk error) ↔
      (∀ feature ∈ requested, graph.isRequestable package feature = true) ∧
        graph.closure (.base package :: requested.map (.named package)) chosen =
          .error error := by
  rw [← firstRefused?_eq_none_iff]
  cases refused : graph.firstRefused? package requested with
  | some feature =>
      simp [activate_of_refused refused]
  | none =>
      rw [activate_eq (firstRefused?_eq_none_iff.mp refused)]
      cases graph.closure (.base package :: requested.map (.named package)) chosen <;>
        simp [Except.map, Except.mapError]

/-- An activation refuses the first feature that cannot be asked for. -/
theorem activate_eq_undefinedFeature_iff
    {other : PackageId}
    {feature : String} :
    graph.activate package requested chosen = .error (.undefinedFeature other feature) ↔
      other = package ∧ graph.firstRefused? package requested = some feature := by
  cases refused : graph.firstRefused? package requested with
  | some first =>
      simp [activate_of_refused refused, eq_comm]
  | none =>
      rw [activate_eq (firstRefused?_eq_none_iff.mp refused)]
      cases graph.closure (.base package :: requested.map (.named package)) chosen <;>
        simp [Except.map, Except.mapError]

/-- The packages that are activated are missing exactly where the nodes are. -/
theorem activatePackages_error_iff
    {error : ActivationError} :
    graph.activatePackages package requested chosen = .error error ↔
      graph.activate package requested chosen = .error error := by
  unfold activatePackages
  cases graph.activate package requested chosen <;> simp [Except.map]

end Outcome

end FeatureGraph

namespace PackageGraph

variable {graph : PackageGraph} {chosen : EdgePredicate} {package : PackageId}
  {requested : List String}

/-- The nodes that an activation starts at. -/
def activationStarts
    (package : PackageId)
    (requested : List String) : List FeatureId :=
  .base package :: requested.map (.named package)

/-- The activation of accepted features starts at nodes of the feature graph. -/
theorem activationStarts_subset
    (known : package ∈ graph.ids)
    (accepted : ∀ feature ∈ requested, graph.Accepts package feature) :
    activationStarts package requested ⊆ graph.featureGraph.nodes := by
  apply List.cons_subset.mpr
  refine ⟨base_mem_nodes known, ?_⟩
  intro node member
  obtain ⟨feature, asked, rfl⟩ := List.mem_map.mp member
  exact named_mem_nodes (accepted feature asked).2

/-- The activation of accepted features is the closure of their nodes. -/
theorem activate_eq_of_accepted
    (accepted : ∀ feature ∈ requested, graph.Accepts package feature) :
    graph.featureGraph.activate package requested chosen =
      ((graph.featureGraph.closure (activationStarts package requested) chosen).map
        FeatureId.ascending).mapError .walk :=
  FeatureGraph.activate_eq fun feature asked => isRequestable_iff.mpr (accepted feature asked)

/-- The activation of accepted features ends with a result or with a cycle. -/
theorem activate_ok_or_cycle
    (known : package ∈ graph.ids)
    (accepted : ∀ feature ∈ requested, graph.Accepts package feature) :
    (∃ ids, graph.featureGraph.activate package requested chosen = .ok ids) ∨
      ∃ cycle,
        graph.featureGraph.activate package requested chosen =
          .error (.walk (.cycle cycle)) := by
  rw [activate_eq_of_accepted accepted]
  rcases FeatureGraph.closure_ok_or_cycle chosen (activationStarts_subset known accepted) with
    ⟨result, closes⟩ | ⟨cycle, fails⟩
  · rw [closes]
    exact Or.inl ⟨_, rfl⟩
  · rw [fails]
    exact Or.inr ⟨cycle, rfl⟩

/-- The activation of accepted features meets a cycle exactly if they need something that needs
itself. -/
theorem activate_cycle_iff
    (known : package ∈ graph.ids)
    (accepted : ∀ feature ∈ requested, graph.Accepts package feature) :
    (∃ cycle,
      graph.featureGraph.activate package requested chosen = .error (.walk (.cycle cycle))) ↔
      ∃ start ∈ activationStarts package requested, ∃ node,
        graph.featureGraph.Needs chosen start node ∧
          Relation.TransGen (graph.featureGraph.Passing chosen) node node := by
  rw [← FeatureGraph.closure_cycle_iff (activationStarts_subset known accepted)]
  simp only [FeatureGraph.activate_eq_walk_iff, isRequestable_iff, and_iff_right accepted,
    activationStarts]

/-- What is activated are the nodes that the starts need. -/
theorem mem_activate_iff
    (known : package ∈ graph.ids)
    (accepted : ∀ feature ∈ requested, graph.Accepts package feature)
    {ids : List FeatureId}
    (returns : graph.featureGraph.activate package requested chosen = .ok ids)
    {node : FeatureId} :
    node ∈ ids ↔
      ∃ start ∈ activationStarts package requested,
        graph.featureGraph.Needs chosen start node := by
  obtain ⟨-, result, closes, rfl⟩ := FeatureGraph.activate_eq_ok_iff.mp returns
  exact Sequence.mem_sorted.trans
    (FeatureGraph.mem_closure_iff (activationStarts_subset known accepted) closes)

/--
What accepted features of a package activate is the least set of nodes that has the base of the
package and the features in it and keeps to the rules of activation.

There is such a result unless a cycle of features is met.
-/
theorem activate_isLeast
    (graph : PackageGraph)
    (package : PackageId)
    (requested : List String)
    (chosen : EdgePredicate)
    (known : package ∈ graph.ids)
    (accepted : ∀ feature ∈ requested, graph.Accepts package feature) :
    ((∃ ids, graph.featureGraph.activate package requested chosen = .ok ids) ∨
      ∃ cycle,
        graph.featureGraph.activate package requested chosen = .error (.walk (.cycle cycle))) ∧
    ∀ ids, graph.featureGraph.activate package requested chosen = .ok ids →
      IsLeast
        {nodes : Set FeatureId |
          .base package ∈ nodes ∧
            (∀ feature ∈ requested, .named package feature ∈ nodes) ∧
              graph.ActivationClosed chosen nodes}
        {id | id ∈ ids} := by
  refine ⟨activate_ok_or_cycle known accepted, ?_⟩
  intro ids returns
  have members :
      {id | id ∈ ids} =
        {node | ∃ start ∈ activationStarts package requested,
          graph.featureGraph.Needs chosen start node} :=
    Set.ext fun node => mem_activate_iff known accepted returns
  have conditions :
      ∀ nodes : Set FeatureId,
        (.base package ∈ nodes ∧
          (∀ feature ∈ requested, .named package feature ∈ nodes) ∧
            graph.ActivationClosed chosen nodes) ↔
        (∀ start ∈ activationStarts package requested, start ∈ nodes) ∧
          ∀ source ∈ nodes, ∀ target,
            graph.featureGraph.Passing chosen source target → target ∈ nodes := by
    intro nodes
    rw [activationClosed_iff, activationStarts, List.forall_mem_cons, List.forall_mem_map,
      and_assoc]
  rw [members, Set.ext conditions]
  exact FeatureGraph.isLeast_needs (activationStarts package requested)

/-! ### The packages that are activated -/

theorem activatePackages_cycle_iff
    (known : package ∈ graph.ids)
    (accepted : ∀ feature ∈ requested, graph.Accepts package feature) :
    (∃ cycle,
      graph.featureGraph.activatePackages package requested chosen =
        .error (.walk (.cycle cycle))) ↔
      ∃ start ∈ activationStarts package requested, ∃ node,
        graph.featureGraph.Needs chosen start node ∧
          Relation.TransGen (graph.featureGraph.Passing chosen) node node := by
  rw [← activate_cycle_iff known accepted]
  simp only [FeatureGraph.activatePackages_error_iff]

/-- The activation of accepted features gives the packages of what they need, unless it meets a
cycle. -/
theorem activatePackages_ok_or_cycle
    (known : package ∈ graph.ids)
    (accepted : ∀ feature ∈ requested, graph.Accepts package feature) :
    (∃ packages,
      graph.featureGraph.activatePackages package requested chosen =
          .ok (Sequence.sorted (fun a b => a < b) (Sequence.distinct packages)) ∧
        ∀ id,
          id ∈ packages ↔
            ∃ start ∈ activationStarts package requested, ∃ node,
              graph.featureGraph.Needs chosen start node ∧ node.package = id) ∨
      ∃ cycle,
        graph.featureGraph.activatePackages package requested chosen =
          .error (.walk (.cycle cycle)) := by
  rcases activate_ok_or_cycle known accepted with ⟨ids, returns⟩ | ⟨cycle, fails⟩
  · refine Or.inl ⟨ids.map FeatureId.package, ?_, ?_⟩
    · rw [FeatureGraph.activatePackages, returns]
      rfl
    · intro id
      simp only [List.mem_map, mem_activate_iff known accepted returns]
      constructor
      · intro found
        obtain ⟨node, ⟨start, isStart, needs⟩, same⟩ := found
        exact ⟨start, isStart, node, needs, same⟩
      · intro found
        obtain ⟨start, isStart, node, needs, same⟩ := found
        exact ⟨node, ⟨start, isStart, needs⟩, same⟩
  · exact Or.inr ⟨cycle, FeatureGraph.activatePackages_error_iff.mpr fails⟩

/-! ### A package with an optional dependency -/

namespace Logging

/-- The id of a package that can log. -/
def server : PackageId :=
  ⟨"server 1.0.0", by decide⟩

/-- The id of what it logs with. -/
def log : PackageId :=
  ⟨"log 0.4.0", by decide⟩

/-- The id of what it always needs. -/
def core : PackageId :=
  ⟨"core 2.0.0", by decide⟩

/-- The feature `std` of the package turns on `alloc` of `core`, and logging. -/
def sample : PackageGraph :=
  .ofParts
    [.sample server [("default", ["std"]), ("std", ["core/alloc", "dep:log"])],
      .sample core [("default", []), ("alloc", [])],
      .sample log [("std", [])]]
    [.sample 0 server core "core" false, .sample 1 server log "log" true]
    ⟨none, [server]⟩ (by decide) (by decide) (by decide) (by decide)

end Logging

/-- What `std` activates: logging, and `core` with the features asked for. -/
theorem activate_logging :
    let requested := ["std"]
    Logging.server ∈ Logging.sample.ids ∧
      (∀ feature ∈ requested, Logging.sample.Accepts Logging.server feature) ∧
      IsLeast
        {nodes : Set FeatureId |
          .base Logging.server ∈ nodes ∧
            (∀ feature ∈ requested, .named Logging.server feature ∈ nodes) ∧
              Logging.sample.ActivationClosed .everything nodes}
        {id | id ∈
          [.base Logging.core, .named Logging.core "alloc", .named Logging.core "default",
            .base Logging.log, .base Logging.server, .dependency Logging.server "log",
            .named Logging.server "std"]} := by
  intro requested
  have known : Logging.server ∈ Logging.sample.ids := by
    decide
  have accepted : ∀ feature ∈ requested, Logging.sample.Accepts Logging.server feature := by
    intro feature member
    obtain rfl : feature = "std" := List.mem_singleton.mp member
    exact isRequestable_iff.mp (by decide +kernel)
  have returns :
      Logging.sample.featureGraph.activate Logging.server requested .everything =
        .ok [.base Logging.core, .named Logging.core "alloc", .named Logging.core "default",
          .base Logging.log, .base Logging.server, .dependency Logging.server "log",
          .named Logging.server "std"] := by
    decide +kernel
  obtain ⟨-, least⟩ :=
    activate_isLeast Logging.sample Logging.server requested .everything known accepted
  exact ⟨known, accepted, least _ returns⟩

end PackageGraph

end CargoDeps
