import CargoDeps.Proofs.Dependency.Filter
import CargoDeps.Proofs.Query.Cycle
import CargoDeps.Proofs.Query.Reach

namespace CargoDeps

/-!
# Queries along more edges

Along more edges no package is lost, and cycles grow or merge but are never split.  So a relaxed
filter finds whatever was found before, and what is found without knowledge of target features bounds
what is found with them, from below and from above.
-/

open Relation (ReflTransGen TransGen)

namespace PackageGraph

variable {graph : PackageGraph} {direction : Direction} {chosen wider : EdgePredicate}
  {roots : List PackageId} {members : Set PackageId}

/-! ### Paths along more edges -/

theorem Links.of_within
    {source target : PackageId}
    (links : graph.Links chosen source target)
    (within : chosen.Within wider) :
    graph.Links wider source target := by
  obtain ⟨edge, member, fromSource, toTarget, accepted⟩ := links
  exact ⟨edge, member, fromSource, toTarget, within edge accepted⟩

theorem leads_of_within
    {source target : PackageId}
    (path : graph.Leads chosen source target)
    (within : chosen.Within wider) :
    graph.Leads wider source target :=
  ReflTransGen.mono (fun _ _ links => links.of_within within) _ _ path

theorem LeadsTowards.of_within
    {root id : PackageId}
    (path : graph.LeadsTowards direction chosen root id)
    (within : chosen.Within wider) :
    graph.LeadsTowards direction wider root id := by
  cases direction with
  | forward =>
      exact leads_of_within path within
  | reverse =>
      exact leads_of_within path within

/-- Along more edges no package is lost. -/
theorem ids_reachFrom_subset_of_within
    (known : roots ⊆ graph.ids)
    (within : chosen.Within wider) :
    (graph.reachFrom roots direction chosen).ids ⊆
      (graph.reachFrom roots direction wider).ids := by
  intro id reached
  obtain ⟨root, isRoot, path⟩ := (mem_ids_reachFrom known).mp reached
  exact (mem_ids_reachFrom known).mpr ⟨root, isRoot, path.of_within within⟩

/-! ### Cycles along more edges -/

/-- A cyclic class is a part of one along more edges. -/
theorem IsCyclicClass.exists_of_within
    (isCyclicClass : graph.IsCyclicClass chosen members)
    (within : chosen.Within wider) :
    ∃ others, graph.IsCyclicClass wider others ∧ members ⊆ others := by
  obtain ⟨id, member⟩ := isCyclicClass.1.nonempty
  have closedPath : TransGen (graph.Links chosen) id id :=
    exists_isCyclicClass_iff.mp ⟨members, isCyclicClass, member⟩
  obtain ⟨others, otherCyclic, otherMember⟩ :=
    exists_isCyclicClass_iff.mpr
      (TransGen.mono (fun _ _ links => links.of_within within) _ _ closedPath)
  refine ⟨others, otherCyclic, ?_⟩
  intro other inMembers
  have leads := leads_of_within (isCyclicClass.1.leads member inMembers) within
  have back := leads_of_within (isCyclicClass.1.leads inMembers member) within
  exact (otherCyclic.1.mem_iff otherMember).mpr ⟨leads, back⟩

/-- A cycle is inside exactly one cycle along more edges. -/
theorem existsUnique_cycle_of_within
    (within : chosen.Within wider)
    {cycle : Cycle}
    (found : cycle ∈ graph.findCycles chosen) :
    ∃! other,
      other ∈ graph.findCycles wider ∧
        cycle.members ⊆ other.members ∧
          cycle.links ⊆ other.links := by
  obtain ⟨members, isCyclicClass, presents⟩ := presents_of_mem_findCycles found
  obtain ⟨others, otherCyclic, subset⟩ := isCyclicClass.exists_of_within within
  obtain ⟨other, otherFound, otherPresents⟩ := exists_mem_findCycles otherCyclic
  have membersKept : cycle.members ⊆ other.members := by
    intro id member
    exact otherPresents.mem_members_iff.mpr (subset (presents.mem_members_iff.mp member))
  have linksKept : cycle.links ⊆ other.links := by
    intro edge link
    obtain ⟨member, accepted, sourceMember, targetMember⟩ := (presents.mem_links_iff edge).mp link
    exact (otherPresents.mem_links_iff edge).mpr
      ⟨member, within edge accepted, subset sourceMember, subset targetMember⟩
  refine ⟨other, ⟨otherFound, membersKept, linksKept⟩, ?_⟩
  -- A cycle has a member, which no two cycles share.
  rintro another ⟨anotherFound, anotherKeeps, -⟩
  obtain ⟨id, inMembers⟩ := isCyclicClass.1.nonempty
  have isMember : id ∈ cycle.members := presents.mem_members_iff.mpr inMembers
  exact eq_of_mem_members anotherFound otherFound (anotherKeeps isMember) (membersKept isMember)

/-! ### Relaxed filters -/

/--
Relaxing a filter loses nothing: whatever it accepted is accepted, queries reach what they reached,
and each cycle is inside exactly one cycle, with all of its members and links.
-/
theorem relaxed_filter_loses_nothing
    (graph : PackageGraph)
    (filter relaxed : EdgeFilter)
    (relaxes : relaxed.Relaxes filter) :
    (∀ edge, filter.accepts edge = true → relaxed.accepts edge = true) ∧
    (∀ roots direction,
      roots ⊆ graph.ids →
      ∃ narrow wide,
        graph.query roots direction filter.accepts = .ok narrow ∧
          graph.query roots direction relaxed.accepts = .ok wide ∧
            narrow.ids ⊆ wide.ids) ∧
    (∀ cycle ∈ graph.findCycles filter.accepts,
      ∃! wide,
        wide ∈ graph.findCycles relaxed.accepts ∧
          cycle.members ⊆ wide.members ∧
            cycle.links ⊆ wide.links) := by
  have within : EdgePredicate.Within filter.accepts relaxed.accepts := relaxes.within
  refine ⟨within, ?_, fun _ found => existsUnique_cycle_of_within within found⟩
  intro roots direction known
  exact ⟨_, _, query_eq_ok_iff.mpr ⟨known, rfl⟩, query_eq_ok_iff.mpr ⟨known, rfl⟩,
    ids_reachFrom_subset_of_within known within⟩

namespace Conditional

/-- The condition that `sse2` is enabled. -/
def streaming : TargetSpec :=
  ⟨"cfg(target_feature = \"sse2\")", .condition (.test (.equal .targetFeature "sse2"))⟩

/-- A graph with edges that are optional, for development only, or bound to target features. -/
def sample : PackageGraph :=
  .ofParts
    [.sample Paired.app [], .sample Paired.tool [], .sample Paired.lib [], .sample Paired.core []]
    [.sample 0 Paired.app Paired.lib "lib" false, .sample 1 Paired.lib Paired.app "app" false,
      { Edge.sample 2 Paired.app Paired.core "core" false with
        platform := some TargetSpec.vectorized },
      .sample 3 Paired.core Paired.lib "lib" true,
      { Edge.sample 4 Paired.core Paired.tool "tool" false with platform := some streaming },
      { Edge.sample 5 Paired.tool Paired.tool "tool" false with kind := .development }]
    ⟨none, [Paired.app]⟩ (by decide) (by decide) (by decide) (by decide)

/-- The filter for normal edges that are not optional and whose condition is met on `linux` whatever
its target features are. -/
def strict : EdgeFilter :=
  ⟨[.normal], false, some ⟨TargetSpec.linux, none⟩, false⟩

end Conditional

/-- With optional edges and whatever the platform is, `app` depends on all packages instead of on
`lib` alone.  Its cycle with `lib` takes in `core`, and `tool` is in one of its own. -/
theorem relaxed_filter_conditional :
    EdgeFilter.everything.Relaxes Conditional.strict ∧
      [Paired.app] ⊆ Conditional.sample.ids ∧
      (∃ narrow wide,
        Conditional.sample.query [Paired.app] .forward Conditional.strict.accepts = .ok narrow ∧
          Conditional.sample.query [Paired.app] .forward EdgeFilter.everything.accepts = .ok wide ∧
            narrow.ids = [Paired.app, Paired.lib] ∧
              wide.ids = [Paired.app, Paired.lib, Paired.core, Paired.tool] ∧
                narrow.ids ⊆ wide.ids) ∧
      (Conditional.sample.findCycles Conditional.strict.accepts).map Cycle.members =
        [[Paired.app, Paired.lib]] ∧
      (Conditional.sample.findCycles EdgeFilter.everything.accepts).map Cycle.members =
        [[Paired.app, Paired.core, Paired.lib], [Paired.tool]] ∧
      (∀ cycle ∈ Conditional.sample.findCycles Conditional.strict.accepts,
        ∃! wide,
          wide ∈ Conditional.sample.findCycles EdgeFilter.everything.accepts ∧
            cycle.members ⊆ wide.members ∧
              cycle.links ⊆ wide.links) := by
  have relaxes : EdgeFilter.everything.Relaxes Conditional.strict :=
    ⟨by decide, by decide, by decide, Or.inr rfl⟩
  have known : [Paired.app] ⊆ Conditional.sample.ids := by
    decide
  obtain ⟨-, reaches, cyclesKept⟩ :=
    relaxed_filter_loses_nothing Conditional.sample Conditional.strict .everything relaxes
  obtain ⟨narrow, wide, findsNarrow, findsWide, subset⟩ := reaches [Paired.app] .forward known
  obtain ⟨-, rfl⟩ := query_eq_ok_iff.mp findsNarrow
  obtain ⟨-, rfl⟩ := query_eq_ok_iff.mp findsWide
  exact ⟨relaxes, known,
    ⟨_, _, findsNarrow, findsWide, by decide +kernel, by decide +kernel, subset⟩,
    by decide +kernel, by decide +kernel, cyclesKept⟩

/-! ### Unknown features -/

/--
What is reached without knowledge of target features bounds what is reached with any.  A package that
is reached although unknown conditions do not count as met is always reached, and one that is not
reached although they do never is.
-/
theorem query_bounded_without_features
    (graph : PackageGraph)
    (roots : List PackageId)
    (direction : Direction)
    (values : List Datum)
    (kinds : List DependencyKind)
    (includeOptional : Bool)
    (target : Platform.Target)
    (features : List String)
    (includeUnknown : Bool)
    (known : roots ⊆ graph.ids)
    (writes : List.Forall₂ Datum.WritesKind values kinds)
    (isTarget : target ∈ Platform.Target.builtin) :
    ∃ certain aware possible,
      EdgeFilter.make values includeOptional (some (target.triple, none)) false = .ok certain ∧
      EdgeFilter.make values includeOptional (some (target.triple, some features)) includeUnknown =
        .ok aware ∧
      EdgeFilter.make values includeOptional (some (target.triple, none)) true = .ok possible ∧
      ∃ least result most,
        graph.query roots direction certain.accepts = .ok least ∧
          graph.query roots direction aware.accepts = .ok result ∧
            graph.query roots direction possible.accepts = .ok most ∧
              least.ids ⊆ result.ids ∧
                result.ids ⊆ most.ids := by
  refine ⟨_, _, _, EdgeFilter.make_of_writes writes isTarget none false,
    EdgeFilter.make_of_writes writes isTarget (some features) includeUnknown,
    EdgeFilter.make_of_writes writes isTarget none true,
    _, _, _, query_eq_ok_iff.mpr ⟨known, rfl⟩, query_eq_ok_iff.mpr ⟨known, rfl⟩,
    query_eq_ok_iff.mpr ⟨known, rfl⟩, ?_, ?_⟩
  · exact ids_reachFrom_subset_of_within known (EdgeFilter.within_aware _ includeUnknown)
  · exact ids_reachFrom_subset_of_within known (EdgeFilter.aware_within _ includeUnknown)

/-- With `avx` enabled, `core` is reached beside `lib`, and `tool` is not, which hangs on a feature
that could be enabled too. -/
theorem query_bounded_conditional :
    [Paired.app] ⊆ Conditional.sample.ids ∧
      List.Forall₂ Datum.WritesKind [.null, .text "build"] [.normal, .build] ∧
      TargetSpec.linux ∈ Platform.Target.builtin ∧
      ∃ certain aware possible,
        EdgeFilter.make [.null, .text "build"] false (some (TargetSpec.linux.triple, none)) false =
          .ok certain ∧
        EdgeFilter.make [.null, .text "build"] false
            (some (TargetSpec.linux.triple, some ["avx"])) false =
          .ok aware ∧
        EdgeFilter.make [.null, .text "build"] false (some (TargetSpec.linux.triple, none)) true =
          .ok possible ∧
        ∃ least result most,
          Conditional.sample.query [Paired.app] .forward certain.accepts = .ok least ∧
            Conditional.sample.query [Paired.app] .forward aware.accepts = .ok result ∧
              Conditional.sample.query [Paired.app] .forward possible.accepts = .ok most ∧
                least.ids = [Paired.app, Paired.lib] ∧
                  result.ids = [Paired.app, Paired.lib, Paired.core] ∧
                    most.ids = [Paired.app, Paired.lib, Paired.core, Paired.tool] ∧
                      least.ids ⊆ result.ids ∧
                        result.ids ⊆ most.ids := by
  have known : [Paired.app] ⊆ Conditional.sample.ids := by
    decide
  have writes : List.Forall₂ Datum.WritesKind [.null, .text "build"] [.normal, .build] :=
    .cons .missing (.cons .build .nil)
  have isTarget : TargetSpec.linux ∈ Platform.Target.builtin := by
    decide
  obtain ⟨certain, aware, possible, makesCertain, makesAware, makesPossible, least, result, most,
      findsLeast, findsResult, findsMost, lower, upper⟩ :=
    query_bounded_without_features Conditional.sample [Paired.app] .forward _ _ false
      TargetSpec.linux ["avx"] false known writes isTarget
  rw [EdgeFilter.make_of_writes writes isTarget] at makesCertain makesAware makesPossible
  obtain rfl := Except.ok.inj makesCertain
  obtain rfl := Except.ok.inj makesAware
  obtain rfl := Except.ok.inj makesPossible
  obtain ⟨-, rfl⟩ := query_eq_ok_iff.mp findsLeast
  obtain ⟨-, rfl⟩ := query_eq_ok_iff.mp findsResult
  obtain ⟨-, rfl⟩ := query_eq_ok_iff.mp findsMost
  exact ⟨known, writes, isTarget, _, _, _, EdgeFilter.make_of_writes writes isTarget _ _,
    EdgeFilter.make_of_writes writes isTarget _ _, EdgeFilter.make_of_writes writes isTarget _ _,
    _, _, _, findsLeast, findsResult, findsMost, by decide +kernel, by decide +kernel,
    by decide +kernel, lower, upper⟩

end PackageGraph

end CargoDeps
