import CargoDeps.Feature.Derivation
import CargoDeps.Proofs.Sequence.Sorted
import Mathlib.Data.List.Nodup
import Mathlib.Data.Set.Defs

namespace CargoDeps.PackageGraph

/-!
# The rules of activation

What feature tables and dependency edges say about features, told without the feature graph.  A set
of nodes that keeps to the rules has with each node all that its activation asks for.
-/

/-- The table of a package defines a feature. -/
def Defines
    (graph : PackageGraph)
    (id : PackageId)
    (feature : String) : Prop :=
  ∃ package ∈ graph.packages,
    package.id = id ∧ feature ∈ package.features.names

/-- The table of a package lists a target for a feature. -/
def Lists
    (graph : PackageGraph)
    (id : PackageId)
    (feature target : String) : Prop :=
  ∃ package ∈ graph.packages,
    package.id = id ∧
      ∃ targets, (feature, targets) ∈ package.features ∧ target ∈ targets

/-- An optional dependency of a package has a name. -/
def HasOptional
    (graph : PackageGraph)
    (id : PackageId)
    (name : String) : Prop :=
  ∃ edge ∈ graph.edges,
    edge.source = id ∧
      edge.isOptional = true ∧
        edge.name = name

/-- A package has a feature: one of its table, or that of an optional dependency. -/
def Provides
    (graph : PackageGraph)
    (id : PackageId)
    (feature : String) : Prop :=
  graph.Defines id feature ∨ graph.HasOptional id feature

/-- A feature of a package can be asked for: the package has it, and its name does not have the mark
of an optional dependency. -/
def Accepts
    (graph : PackageGraph)
    (id : PackageId)
    (feature : String) : Prop :=
  (¬∃ name, feature = FeatureId.dependencyMark ++ name) ∧ graph.Provides id feature

/--
An edge is applied: its target is on, the default feature of the target if the edge asks for it and
the table has it, and each feature that the edge asks for and the target has.
-/
structure Applies
    (graph : PackageGraph)
    (nodes : Set FeatureId)
    (edge : Edge) : Prop where
  base :
    .base edge.target ∈ nodes
  default :
    edge.defaultFeatures = true →
    graph.Defines edge.target "default" →
    .named edge.target "default" ∈ nodes
  requested :
    ∀ feature ∈ edge.features,
      graph.Provides edge.target feature →
      .named edge.target feature ∈ nodes

/-- A feature of a dependency is on: the dependency itself, if it is optional, and the feature in
all packages that the name of the dependency stands for along chosen edges. -/
structure TurnsOnForeign
    (graph : PackageGraph)
    (chosen : EdgePredicate)
    (nodes : Set FeatureId)
    (id : PackageId)
    (name feature : String) : Prop where
  dependency :
    graph.HasOptional id name →
    .dependency id name ∈ nodes
  named :
    ∀ edge ∈ graph.edges,
      edge.source = id →
      edge.name = name →
      chosen edge = true →
      graph.Provides edge.target feature →
      .named edge.target feature ∈ nodes

/--
A target of a feature is on.

A target with the mark of an optional dependency is on if there is such a dependency.  One with two
parts around a slash is the feature of a dependency, and nothing if the first part ends with a
question mark.  Any other target is on if the package has it.
-/
structure TurnsOn
    (graph : PackageGraph)
    (chosen : EdgePredicate)
    (nodes : Set FeatureId)
    (id : PackageId)
    (target : String) : Prop where
  dependency :
    ∀ name,
      target = FeatureId.dependencyMark ++ name →
      graph.HasOptional id name →
      .named id target ∈ nodes
  foreign :
    (¬∃ name, target = FeatureId.dependencyMark ++ name) →
    ∀ name feature,
      target = name ++ "/" ++ feature →
      '/' ∉ name.toList →
      (¬∃ stem, name = stem ++ "?") →
      graph.TurnsOnForeign chosen nodes id name feature
  own :
    (¬∃ name, target = FeatureId.dependencyMark ++ name) →
    '/' ∉ target.toList →
    graph.Provides id target →
    .named id target ∈ nodes

/--
A set of nodes keeps to the rules.

The base of a package applies its chosen edges that are not optional, and an optional dependency the
chosen optional edges of its name.  An optional dependency turns on its package; a feature that is
known by the name of an optional dependency only turns on that dependency; and a feature of the
table turns on its package and its targets.
-/
structure ActivationClosed
    (graph : PackageGraph)
    (chosen : EdgePredicate)
    (nodes : Set FeatureId) : Prop where
  base :
    ∀ id,
      .base id ∈ nodes →
      ∀ edge ∈ graph.edges,
        edge.source = id →
        edge.isOptional = false →
        chosen edge = true →
        graph.Applies nodes edge
  dependency :
    ∀ id name,
      graph.HasOptional id name →
      .dependency id name ∈ nodes →
      .base id ∈ nodes ∧
        ∀ edge ∈ graph.edges,
          edge.source = id →
          edge.isOptional = true →
          edge.name = name →
          chosen edge = true →
          graph.Applies nodes edge
  implied :
    ∀ id name,
      graph.HasOptional id name →
      ¬graph.Defines id name →
      .named id name ∈ nodes →
      .dependency id name ∈ nodes
  feature :
    ∀ id feature,
      graph.Defines id feature →
      .named id feature ∈ nodes →
      .base id ∈ nodes ∧
        ∀ target,
          graph.Lists id feature target →
          graph.TurnsOn chosen nodes id target

variable {graph : PackageGraph}

theorem Lists.defines
    {id : PackageId}
    {feature target : String}
    (lists : graph.Lists id feature target) :
    graph.Defines id feature := by
  obtain ⟨package, member, same, targets, entry, -⟩ := lists
  exact ⟨package, member, same, List.mem_map.mpr ⟨_, entry, rfl⟩⟩

theorem Defines.exists_package
    {id : PackageId}
    {feature : String}
    (defines : graph.Defines id feature) :
    ∃ package ∈ graph.packages, package.id = id := by
  obtain ⟨package, member, same, -⟩ := defines
  exact ⟨package, member, same⟩

theorem HasOptional.exists_package
    {id : PackageId}
    {name : String}
    (hasOptional : graph.HasOptional id name) :
    ∃ package ∈ graph.packages, package.id = id := by
  obtain ⟨edge, member, rfl, -⟩ := hasOptional
  exact List.mem_map.mp (graph.source_mem edge member)

theorem Provides.exists_package
    {id : PackageId}
    {feature : String}
    (provides : graph.Provides id feature) :
    ∃ package ∈ graph.packages, package.id = id :=
  provides.elim Defines.exists_package HasOptional.exists_package

/-! ### The tests of the derivation -/

theorem mem_optionalNames
    {id : PackageId}
    {name : String} :
    name ∈ graph.optionalNames id ↔ graph.HasOptional id name := by
  simp only [optionalNames, HasOptional, Sequence.mem_sorted, Sequence.mem_distinct, List.mem_map,
    List.mem_filter, mem_edgesFrom]
  constructor
  · rintro ⟨edge, ⟨⟨member, leaves⟩, optional⟩, called⟩
    exact ⟨edge, member, leaves, optional, called⟩
  · rintro ⟨edge, member, leaves, optional, called⟩
    exact ⟨edge, ⟨⟨member, leaves⟩, optional⟩, called⟩

/-- There is one package for each id. -/
theorem eq_of_id_eq
    {first second : Package}
    (firstMember : first ∈ graph.packages)
    (secondMember : second ∈ graph.packages)
    (same : first.id = second.id) :
    first = second :=
  List.inj_on_of_nodup_map graph.distinct_ids firstMember secondMember same

theorem defines_iff
    {package : Package}
    (member : package ∈ graph.packages)
    {feature : String} :
    package.features.defines feature = true ↔ graph.Defines package.id feature := by
  simp only [FeatureTable.defines, decide_eq_true_eq, Defines]
  constructor
  · intro listed
    exact ⟨package, member, rfl, listed⟩
  · rintro ⟨other, otherMember, same, listed⟩
    exact eq_of_id_eq otherMember member same ▸ listed

theorem defines_or_optional_iff
    {package : Package}
    (member : package ∈ graph.packages)
    {feature : String} :
    (package.features.defines feature || feature ∈ graph.optionalNames package.id) = true ↔
      graph.Provides package.id feature := by
  rw [Bool.or_eq_true, defines_iff member, decide_eq_true_eq, mem_optionalNames, Provides]

theorem defines_featureTable_iff
    {id : PackageId}
    {feature : String} :
    (graph.featureTable id).defines feature = true ↔ graph.Defines id feature := by
  cases found : graph.find? id with
  | some package =>
      have member : package ∈ graph.packages := List.mem_of_find?_eq_some found
      have same : package.id = id := by simpa using List.find?_some found
      subst same
      rw [featureTable, found]
      exact defines_iff member
  | none =>
      simp only [featureTable, found, FeatureTable.defines, FeatureTable.names, Option.map_none,
        Option.getD_none, List.map_nil, List.not_mem_nil, decide_false, Bool.false_eq_true,
        false_iff]
      rintro ⟨package, member, same, -⟩
      have missing := List.find?_eq_none.mp found package member
      simp [same] at missing

theorem providesFeature_iff
    {id : PackageId}
    {feature : String} :
    graph.providesFeature id feature = true ↔ graph.Provides id feature := by
  rw [providesFeature, Bool.or_eq_true, defines_featureTable_iff, decide_eq_true_eq,
    mem_optionalNames, Provides]

end CargoDeps.PackageGraph
