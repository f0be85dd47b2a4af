import CargoDeps.Proofs.Dependency.Lookup
import CargoDeps.Proofs.Query.Choice
import CargoDeps.Proofs.Query.Cycle
import CargoDeps.Proofs.Session.Step

namespace CargoDeps.PackageGraph

/-!
# Questions under a filter

A question about packages of a graph that was built returns whatever the filter.  Only the edges of
the graph are put to the filter, and on these it never fails, though the keys of their conditions be
looked up when they are put to it.
-/

open Step (Returns)

/-- Under a choice all questions about packages of a graph return, with the results that a filter
has. -/
structure AnswersAs (graph : PackageGraph) (filter : EdgeFilter) (chosen : EdgePredicate) :
    Prop where
  query : ∀ session ref, session.HasGraph ref graph →
    ∀ roots, roots ⊆ graph.ids → ∀ direction, ∃ result after,
      Returns
          (Step.query ref (roots.map fun id => .text id.text) (.text direction.name) chosen)
          session result after ∧
        result.ids = (graph.reachFrom roots direction filter.accepts).ids
  dependsOn : ∀ session ref, session.HasGraph ref graph →
    ∀ source ∈ graph.ids, ∀ target ∈ graph.ids,
      Returns (Step.dependsOn ref (.text source.text) (.text target.text) chosen)
        session (graph.dependsOn source target filter.accepts) session
  isCyclic : ∀ session ref, session.HasGraph ref graph →
    ∀ first ∈ graph.ids, ∀ second ∈ graph.ids,
      Returns (Step.isCyclic ref (.text first.text) (.text second.text) chosen)
        session (graph.isCyclic first second filter.accepts) session
  findCycles : ∀ session ref, session.HasGraph ref graph → ∃ after,
    Returns (Step.findCycles ref chosen) session (graph.findCycles filter.accepts) after
  /-- No cycle is left out of the answer because its walk could not be made. -/
  walk : ∀ component ∈ (graph.view chosen).components,
    (graph.view chosen).isCyclic component = true →
      ∃ cycle, Cycle.ofComponent? graph chosen component = some cycle

variable {graph : PackageGraph} {filter : EdgeFilter} {chosen : EdgePredicate}

theorem answersAs_of_agreeOn
    (agree : EdgePredicate.AgreeOn graph.edges chosen filter.accepts) :
    graph.AnswersAs filter chosen where
  query _ _ holds roots known direction :=
    ⟨_, _, Step.returns_query holds known direction chosen,
      ids_reachFrom_congr agree roots direction⟩
  dependsOn _ _ holds source sourceKnown target targetKnown := by
    rw [← dependsOn_congr agree]
    exact Step.returns_dependsOn holds sourceKnown targetKnown chosen
  isCyclic _ _ holds first firstKnown second secondKnown := by
    rw [← isCyclic_congr agree]
    exact Step.returns_isCyclic holds firstKnown secondKnown chosen
  findCycles _ _ holds := by
    rw [← findCycles_congr agree]
    exact ⟨_, Step.returns_findCycles holds chosen⟩
  walk component member isCyclic := by
    have isCyclicClass := (isCyclic_view_iff member).mp isCyclic
    obtain ⟨cycle, made, _⟩ := Cycle.exists_ofComponent? isCyclicClass
    exact ⟨cycle, made⟩

/--
Conditions that could be read always have an answer, though their keys be looked up on the way, and
the conditions that could not be read are those that lack one.  So a filter fails on no edge of a
graph that was built and perhaps cut down since, and under any choice that makes of these edges what
the filter does, all questions about packages of the graph return.
-/
theorem filtered_questions_return :
    (∀ source platform, "cfg(".toList <+: TargetSpec.trimmed source →
      ((∃ spec, TargetSpec.parse source = .ok spec) ↔
        (TargetSpec.answer? (String.ofList (TargetSpec.trimmed source)) platform).isSome = true)) ∧
    (∀ source spec platform, TargetSpec.parse source = .ok spec →
      TargetSpec.answer? spec.text platform = some (spec.eval platform)) ∧
    ∀ records input root built (graph : PackageGraph),
      build records input root = .ok built →
      built.Descends graph →
      ∀ filter : EdgeFilter,
        (∀ edge ∈ graph.edges, filter.accepts? edge = some (filter.accepts edge)) ∧
        ∀ chosen : EdgePredicate,
          (∀ edge ∈ graph.edges, filter.accepts? edge = some (chosen edge)) →
          graph.AnswersAs filter chosen := by
  refine ⟨fun _ _ => TargetSpec.exists_parse_iff_isSome_answer?,
    fun _ _ _ => TargetSpec.answer?_of_parse, ?_⟩
  intro records input root built graph builds descends filter
  have neverFails : ∀ edge ∈ graph.edges, filter.accepts? edge = some (filter.accepts edge) :=
    fun _ => accepts?_of_mem_edges builds descends filter
  refine ⟨neverFails, fun chosen extends' => answersAs_of_agreeOn fun edge member => ?_⟩
  exact Option.some.inj ((extends' edge member).symm.trans (neverFails edge member))

/-- Edges of the input that are bound to platforms by a condition on target features. -/
def vectorizedEdges : List RawEdge :=
  Parallel.edges.map fun raw => { raw with platform := some TargetSpec.vectorized.text }

/-- The filter for normal dependencies on a platform with unknown target features. -/
def onLinux : EdgeFilter :=
  EdgeFilter.normalOnly (some ⟨TargetSpec.linux, none⟩)

/-- A condition with a name of no key cannot be read, and has no answer.  Of a graph with conditions
that hang on unknown features all questions return, also if the choice accepts what is no edge of the
graph and fails the filter. -/
theorem filtered_questions_return_vectorized :
    (¬∃ spec, TargetSpec.parse "cfg(any(unix, os = \"a\"))" = .ok spec) ∧
    TargetSpec.answer? TargetSpec.vectorized.text ⟨TargetSpec.linux, none⟩ = some .unknown ∧
    ∃ built, build Parallel.records vectorizedEdges none = .ok built ∧
      let part := built.restrict [Paired.app, Paired.lib] fun _ => true
      let chosen : EdgePredicate := fun edge => (onLinux.accepts? edge).getD true
      built.Descends part ∧
      (∀ edge ∈ part.edges, onLinux.accepts? edge = some (chosen edge)) ∧
      part.AnswersAs onLinux chosen := by
  refine ⟨?refused, ?answered, ?returned⟩
  case refused =>
    have isText :
        String.ofList (TargetSpec.trimmed "cfg(any(unix, os = \"a\"))") =
          "cfg(any(unix, os = \"a\"))" := by
      decide
    have readable_iff := filtered_questions_return.1 "cfg(any(unix, os = \"a\"))"
      ⟨TargetSpec.linux, none⟩ (by decide)
    rw [readable_iff, isText]
    have fails :
        TargetSpec.answer? "cfg(any(unix, os = \"a\"))" ⟨TargetSpec.linux, none⟩ = none := by
      cbv
    simp [fails]
  case answered =>
    have parses : TargetSpec.parse TargetSpec.vectorized.text = .ok TargetSpec.vectorized := by
      cbv
    have unclear : TargetSpec.vectorized.eval ⟨TargetSpec.linux, none⟩ = .unknown := by
      decide
    rw [filtered_questions_return.2.1 _ _ _ parses, unclear]
  case returned =>
    have told : (build Parallel.records vectorizedEdges none).toOption.isSome = true := by
      cbv
    cases builds : build Parallel.records vectorizedEdges none with
    | error error =>
        simp [builds, Except.toOption] at told
    | ok built =>
        have descends : built.Descends (built.restrict [Paired.app, Paired.lib] fun _ => true) :=
          .restrict _ _ .origin
        obtain ⟨neverFails, returns⟩ :=
          filtered_questions_return.2.2 _ _ _ _ _ builds descends onLinux
        have agree : ∀ edge ∈ (built.restrict [Paired.app, Paired.lib] fun _ => true).edges,
            onLinux.accepts? edge = some ((onLinux.accepts? edge).getD true) := by
          intro edge member
          rw [neverFails edge member, Option.getD_some]
        exact ⟨built, rfl, descends, agree, returns _ agree⟩

end CargoDeps.PackageGraph
