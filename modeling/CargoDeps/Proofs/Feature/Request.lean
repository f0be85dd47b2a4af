import CargoDeps.Proofs.Feature.Activation

namespace CargoDeps.PackageGraph

/-!
# What can be asked for

The derivation puts a node into the feature graph for each end of an arc.  All the same, a feature
can be asked for only where its own package has it: no entry of a table and no edge, whatever they
say, make a feature out of a name that nothing defines.  An activation looks at the requested
features first, and refuses the first one that the package does not accept.
-/

variable {graph : PackageGraph} {chosen : EdgePredicate} {package : PackageId}
  {requested : List String}

/-- A feature is the first of the requested ones that the package does not accept. -/
def FirstRefused
    (graph : PackageGraph)
    (package : PackageId)
    (requested : List String)
    (feature : String) : Prop :=
  ∃ earlier later,
    requested = earlier ++ feature :: later ∧
      (∀ name ∈ earlier, graph.Accepts package name) ∧
        ¬graph.Accepts package feature

/-- The first feature that cannot be asked for is the first that is not accepted. -/
theorem firstRefused?_eq_some_iff
    {feature : String} :
    graph.featureGraph.firstRefused? package requested = some feature ↔
      graph.FirstRefused package requested feature := by
  have refuses_iff :
      ∀ name, graph.featureGraph.isRequestable package name = false ↔
        ¬graph.Accepts package name := by
    intro name
    rw [← isRequestable_iff, Bool.not_eq_true]
  simp only [FeatureGraph.firstRefused?, FirstRefused, List.find?_eq_some_iff_append,
    Bool.not_eq_true', Bool.not_not, isRequestable_iff, refuses_iff]
  constructor
  · intro found
    obtain ⟨refused, earlier, later, shape, accepted⟩ := found
    exact ⟨earlier, later, shape, accepted, refused⟩
  · intro first
    obtain ⟨earlier, later, shape, accepted, refused⟩ := first
    exact ⟨refused, earlier, later, shape, accepted⟩

theorem exists_firstRefused_iff :
    (∃ feature, graph.FirstRefused package requested feature) ↔
      ∃ feature ∈ requested, ¬graph.Accepts package feature := by
  simp only [← firstRefused?_eq_some_iff, ← isRequestable_iff]
  rw [← Option.isSome_iff_exists, FeatureGraph.firstRefused?, List.find?_isSome]
  simp

theorem activate_eq_undefinedFeature_iff_firstRefused
    {other : PackageId}
    {feature : String} :
    graph.featureGraph.activate package requested chosen =
        .error (.undefinedFeature other feature) ↔
      other = package ∧ graph.FirstRefused package requested feature := by
  rw [FeatureGraph.activate_eq_undefinedFeature_iff, firstRefused?_eq_some_iff]

/--
An activation refuses a feature exactly where the package does not accept all that is requested: it
tells of the package and of the first feature that is not accepted, whatever cycles there are.

A feature can be asked for exactly where the package accepts it.  The feature graph has no nodes of
the package for other names but those of its optional dependencies, which are never accepted.
-/
theorem activate_undefinedFeature_outcomes
    (graph : PackageGraph)
    (package : PackageId)
    (requested : List String)
    (chosen : EdgePredicate) :
    ((∃ other feature,
        graph.featureGraph.activate package requested chosen =
          .error (.undefinedFeature other feature)) ↔
      ∃ feature ∈ requested, ¬graph.Accepts package feature) ∧
    (∀ other feature,
      graph.featureGraph.activate package requested chosen =
          .error (.undefinedFeature other feature) ↔
        other = package ∧ graph.FirstRefused package requested feature) ∧
    (∀ feature ∈ requested, ¬graph.Accepts package feature →
      ∀ cycle,
        graph.featureGraph.activate package requested chosen ≠ .error (.walk (.cycle cycle))) ∧
    (∀ feature,
      graph.featureGraph.isRequestable package feature = true ↔ graph.Accepts package feature) ∧
    ∀ feature,
      .named package feature ∈ graph.featureGraph.nodes ↔
        graph.Provides package feature ∨
          ∃ name,
            feature = FeatureId.dependencyMark ++ name ∧ graph.HasOptional package name := by
  refine ⟨?_, fun other feature => activate_eq_undefinedFeature_iff_firstRefused, ?_,
    fun feature => isRequestable_iff, fun feature => named_mem_nodes_iff⟩
  · simp only [activate_eq_undefinedFeature_iff_firstRefused, exists_and_left, exists_eq_left,
      exists_firstRefused_iff]
  · intro feature asked refused cycle fails
    obtain ⟨requestable, -⟩ := FeatureGraph.activate_eq_walk_iff.mp fails
    exact refused (isRequestable_iff.mp (requestable feature asked))

/-- A name that is no feature is told of first, although `ping` needs itself. -/
theorem activate_undefinedFeature_pingPong :
    let requested := ["ping", "pang"]
    ¬FeatureGraph.pingPong.Accepts FeatureGraph.pingPongId "pang" ∧
      FeatureGraph.pingPong.FirstRefused FeatureGraph.pingPongId requested "pang" ∧
      FeatureGraph.pingPong.featureGraph.activate FeatureGraph.pingPongId requested .everything =
        .error (.undefinedFeature FeatureGraph.pingPongId "pang") := by
  intro requested
  have fails :
      FeatureGraph.pingPong.featureGraph.activate FeatureGraph.pingPongId requested .everything =
        .error (.undefinedFeature FeatureGraph.pingPongId "pang") := by
    decide +kernel
  obtain ⟨-, refuses, -, -, -⟩ :=
    activate_undefinedFeature_outcomes FeatureGraph.pingPong FeatureGraph.pingPongId requested
      .everything
  obtain ⟨-, first⟩ := (refuses _ _).mp fails
  obtain ⟨earlier, later, shape, accepted, refused⟩ := first
  exact ⟨refused, ⟨earlier, later, shape, accepted, refused⟩, fails⟩

end CargoDeps.PackageGraph
