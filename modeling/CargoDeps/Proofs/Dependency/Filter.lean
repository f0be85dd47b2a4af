import CargoDeps.Dependency.Filter
import CargoDeps.Proofs.Graph.Input
import CargoDeps.Proofs.TargetSpec.Evaluation

namespace CargoDeps

/-!
# Filters that accept more than others

A filter accepts more edges than another one if it is relaxed.  Without knowledge of target features
it does so if unknown answers count as met instead of failed, and a filter for a target with known
features lies between these two.
-/

/-- All edges that one choice accepts are accepted by another one. -/
def EdgePredicate.Within (chosen wider : EdgePredicate) : Prop :=
  ∀ edge, chosen edge = true → wider edge = true

namespace EdgeFilter

variable {filter other : EdgeFilter} {edge : Edge}

/-- A filter accepts an edge of one of its kinds, optional only if it includes such edges, whose
condition it counts as met. -/
theorem accepts_iff :
    filter.accepts edge = true ↔
      edge.kind ∈ filter.kinds ∧
        (edge.isOptional = true → filter.includeOptional = true) ∧
          (filter.platformAnswer edge).toBool filter.includeUnknown = true := by
  cases optional : edge.isOptional <;> simp [accepts, optional, and_assoc]

/-- A filter accepts what another one accepts if it has no fewer kinds, includes optional edges where
the other does, and counts conditions as met wherever the other does. -/
theorem within_of_answers
    (kinds : filter.kinds ⊆ other.kinds)
    (optional : filter.includeOptional = true → other.includeOptional = true)
    (answers : ∀ edge,
      (filter.platformAnswer edge).toBool filter.includeUnknown = true →
      (other.platformAnswer edge).toBool other.includeUnknown = true) :
    EdgePredicate.Within filter.accepts other.accepts := by
  intro edge accepted
  obtain ⟨isKind, isIncluded, isMet⟩ := accepts_iff.mp accepted
  exact accepts_iff.mpr
    ⟨kinds isKind, fun isOptional => optional (isIncluded isOptional), answers edge isMet⟩

/-! ### Relaxed filters -/

/-- A filter is relaxed: it has the kinds of another one and perhaps more, includes what the other
includes, and asks for the same platform or for none. -/
structure Relaxes (relaxed filter : EdgeFilter) : Prop where
  kinds : filter.kinds ⊆ relaxed.kinds
  optional : filter.includeOptional = true → relaxed.includeOptional = true
  unknown : filter.includeUnknown = true → relaxed.includeUnknown = true
  platform : relaxed.platform = filter.platform ∨ relaxed.platform = none

theorem platformAnswer_of_none
    (everywhere : filter.platform = none) :
    filter.platformAnswer edge = .yes := by
  cases conditional : edge.platform <;> simp [platformAnswer, everywhere, conditional]

theorem platformAnswer_congr
    (same : filter.platform = other.platform) :
    filter.platformAnswer edge = other.platformAnswer edge := by
  rw [platformAnswer, platformAnswer, same]

/-- A relaxed filter accepts all edges that were accepted. -/
theorem Relaxes.within
    {relaxed : EdgeFilter}
    (relaxes : relaxed.Relaxes filter) :
    EdgePredicate.Within filter.accepts relaxed.accepts := by
  refine within_of_answers relaxes.kinds relaxes.optional fun edge isMet => ?_
  rcases relaxes.platform with same | everywhere
  · rw [platformAnswer_congr same]
    exact Ternary.toBool_of_fallback relaxes.unknown isMet
  · exact Ternary.toBool_eq_true_iff.mpr (Or.inl (platformAnswer_of_none everywhere))

/-! ### Filters for a target -/

section Target

variable {kinds : List DependencyKind} {includeOptional : Bool} {target : Platform.Target}

/-- With target features that may be known a filter has the answer that it has without, or one where
it has none. -/
theorem refines_platformAnswer
    {features : Option (List String)}
    {first second : Bool} :
    Ternary.Refines
      (platformAnswer ⟨kinds, includeOptional, some ⟨target, features⟩, first⟩ edge)
      (platformAnswer ⟨kinds, includeOptional, some ⟨target, none⟩, second⟩ edge) := by
  cases conditional : edge.platform with
  | none =>
      simp [platformAnswer, conditional, Ternary.Refines]
  | some spec =>
      simpa [platformAnswer, conditional] using spec.refines_eval features

/-- Whatever the target features are, the edges are accepted that are so without unknown answers. -/
theorem within_aware
    (features : Option (List String))
    (includeUnknown : Bool) :
    EdgePredicate.Within
      (accepts ⟨kinds, includeOptional, some ⟨target, none⟩, false⟩)
      (accepts ⟨kinds, includeOptional, some ⟨target, features⟩, includeUnknown⟩) :=
  within_of_answers (List.Subset.refl kinds) id fun _ isMet =>
    refines_platformAnswer.toBool_of_toBool_false includeUnknown isMet

/-- Whatever the target features are, no edges are accepted but those that are so with unknown
answers. -/
theorem aware_within
    (features : Option (List String))
    (includeUnknown : Bool) :
    EdgePredicate.Within
      (accepts ⟨kinds, includeOptional, some ⟨target, features⟩, includeUnknown⟩)
      (accepts ⟨kinds, includeOptional, some ⟨target, none⟩, true⟩) :=
  within_of_answers (List.Subset.refl kinds) id fun _ isMet =>
    refines_platformAnswer.toBool_true_of_toBool isMet

/-- There is a filter for each known target, with any target features, of all kinds that values
write. -/
theorem make_of_writes
    {values : List Datum}
    (writes : List.Forall₂ Datum.WritesKind values kinds)
    (known : target ∈ Platform.Target.builtin)
    (features : Option (List String))
    (includeUnknown : Bool) :
    make values includeOptional (some (target.triple, features)) includeUnknown =
      .ok ⟨kindSet kinds, includeOptional, some ⟨target, features.map Platform.featureSet⟩,
        includeUnknown⟩ := by
  have readKinds :
      (values.mapM fun value => (DependencyKind.read value).mapError Error.kind) = .ok kinds := by
    induction writes with
    | nil =>
        rfl
    | cons writesFirst _ inductionHypothesis =>
        rw [List.mapM_cons, DependencyKind.read_of_writes writesFirst, inductionHypothesis]
        rfl
  rw [make, readKinds, readPlatform, Platform.ofTriple_triple known]
  rfl

end Target

end EdgeFilter

end CargoDeps
