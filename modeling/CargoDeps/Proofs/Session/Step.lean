import CargoDeps.Proofs.Graph.Input
import CargoDeps.Proofs.Query.Reach
import CargoDeps.Session

namespace CargoDeps

/-!
# Steps that return

A step of a session returns a value, and leaves the session in some state, unless it fails.  The
questions that are asked of a graph with the ids of packages in it return.
-/

/-- A session has a graph under a number. -/
def Session.HasGraph (session : Session) (ref : GraphRef) (graph : PackageGraph) : Prop :=
  ∃ slot, session.graphs[ref]? = some slot ∧ slot.graph = graph

namespace Step

variable {α β : Type} {before middle after : Session}

/-- A step returns a value and leaves a session in a state. -/
def Returns (step : Step α) (before : Session) (value : α) (after : Session) : Prop :=
  step.run.run before = (.ok value, after)

theorem returns_pure
    (value : α) :
    Returns (pure value) before value before :=
  rfl

theorem Returns.bind
    {first : Step α}
    {next : α → Step β}
    {value : α}
    {result : β}
    (returns : Returns first before value middle)
    (returnsNext : Returns (next value) middle result after) :
    Returns (first >>= next) before result after := by
  unfold Returns at returns returnsNext ⊢
  rw [ExceptT.run_bind, StateT.run_bind, returns]
  exact returnsNext

theorem returns_ofExcept
    {ε : Type}
    {wrap : ε → SessionError}
    (value : α) :
    Returns (ofExcept wrap (.ok value)) before value before :=
  rfl

theorem returns_mapM
    {step : α → Step β}
    {items : List α}
    {value : α → β}
    (each : ∀ item ∈ items, Returns (step item) before (value item) before) :
    Returns (items.mapM step) before (items.map value) before := by
  induction items with
  | nil =>
      exact returns_pure []
  | cons item rest inductionHypothesis =>
      obtain ⟨ofItem, ofRest⟩ := List.forall_mem_cons.mp each
      rw [List.mapM_cons]
      exact ofItem.bind ((inductionHypothesis ofRest).bind (returns_pure _))

/-! ### Looking up what is asked of -/

variable {ref : GraphRef} {graph : PackageGraph} {id source target : PackageId}
  {roots : List PackageId}

theorem returns_graphAt
    (holds : before.HasGraph ref graph) :
    Returns (graphAt ref) before graph before := by
  obtain ⟨slot, found, rfl⟩ := holds
  have ofSlot : Returns (slotAt ref) before slot before := by
    refine Returns.bind (show Returns get before before before from rfl) ?_
    rw [found]
    exact returns_pure slot
  exact ofSlot.bind (returns_pure _)

theorem returns_idIn
    (known : id ∈ graph.ids) :
    Returns (idIn graph (.text id.text)) before id before := by
  have reads : graph.readId (.text id.text) = .ok id := by
    simp [PackageGraph.readId, PackageId.read, PackageId.ofDatum?, id.text_ne_empty, known, bind,
      Except.bind]
  rw [idIn, reads]
  exact returns_ofExcept id

theorem returns_direction
    (direction : Direction) :
    Returns (Step.direction (.text direction.name)) before direction before := by
  have reads : Direction.ofDatum (.text direction.name) = .ok direction := by
    cases direction <;> rfl
  rw [Step.direction, reads]
  exact returns_ofExcept direction

/-! ### Questions -/

/-- A query of packages of a graph returns, and its journal tells of it. -/
theorem returns_query
    (holds : before.HasGraph ref graph)
    (known : roots ⊆ graph.ids)
    (direction : Direction)
    (chosen : EdgePredicate) :
    Returns (query ref (roots.map fun id => .text id.text) (.text direction.name) chosen) before
      (graph.reachFrom roots direction chosen)
      { before with
        journal := before.journal ++ [.ofQuery (graph.reachFrom roots direction chosen)] } := by
  have ofRoots :
      Returns ((roots.map fun id => Datum.text id.text).mapM (idIn graph)) before roots before := by
    rw [List.mapM_map]
    simpa [Function.comp_def] using returns_mapM fun id member => returns_idIn (known member)
  have answers : graph.query roots direction chosen = .ok (graph.reachFrom roots direction chosen) :=
    PackageGraph.query_eq_ok_iff.mpr ⟨known, rfl⟩
  refine (returns_graphAt holds).bind ((returns_direction direction).bind (ofRoots.bind ?_))
  rw [answers]
  exact (returns_ofExcept _).bind (Returns.bind rfl (returns_pure _))

/-- Whether one package of a graph depends on another one is a question that returns. -/
theorem returns_dependsOn
    (holds : before.HasGraph ref graph)
    (sourceKnown : source ∈ graph.ids)
    (targetKnown : target ∈ graph.ids)
    (chosen : EdgePredicate) :
    Returns (dependsOn ref (.text source.text) (.text target.text) chosen) before
      (graph.dependsOn source target chosen) before :=
  (returns_graphAt holds).bind
    ((returns_idIn sourceKnown).bind ((returns_idIn targetKnown).bind (returns_pure _)))

/-- Whether two packages of a graph depend on each other is a question that returns. -/
theorem returns_isCyclic
    (holds : before.HasGraph ref graph)
    (sourceKnown : source ∈ graph.ids)
    (targetKnown : target ∈ graph.ids)
    (chosen : EdgePredicate) :
    Returns (isCyclic ref (.text source.text) (.text target.text) chosen) before
      (graph.isCyclic source target chosen) before :=
  (returns_graphAt holds).bind
    ((returns_idIn sourceKnown).bind ((returns_idIn targetKnown).bind (returns_pure _)))

/-- The question for the cycles of a graph returns, and the journal tells of it. -/
theorem returns_findCycles
    (holds : before.HasGraph ref graph)
    (chosen : EdgePredicate) :
    Returns (findCycles ref chosen) before (graph.findCycles chosen)
      { before with
        journal := before.journal ++
          [.cyclesFound (graph.findCycles chosen).length graph.shown] } :=
  (returns_graphAt holds).bind (Returns.bind rfl (returns_pure _))

end Step

end CargoDeps
