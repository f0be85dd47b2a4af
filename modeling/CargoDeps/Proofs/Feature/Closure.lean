import CargoDeps.Feature.Activation
import CargoDeps.Proofs.Digraph.PathSearch
import CargoDeps.Proofs.Graph.Sample

namespace CargoDeps.FeatureGraph

/-!
# What features need

One node of a feature graph needs another directly along an arc that counts, and indirectly along a
path of such arcs.  The closure of some nodes is everything they need, each node behind all that it
needs itself, unless something that they need needs itself; then it is a cycle of such arcs.
-/

/-- An arc that counts along chosen edges leads from one node to another: it comes from no
dependency edge, or from a chosen one. -/
def Passing
    (graph : FeatureGraph)
    (chosen : EdgePredicate)
    (source target : FeatureId) : Prop :=
  ∃ arc ∈ graph.arcs,
    arc.source = source ∧
      arc.target = target ∧
        (arc.link = none ∨ ∃ edge, arc.link = some edge ∧ chosen edge = true)

/-- A node needs another, directly or not; each node needs itself. -/
abbrev Needs
    (graph : FeatureGraph)
    (chosen : EdgePredicate) : FeatureId → FeatureId → Prop :=
  Relation.ReflTransGen (graph.Passing chosen)

theorem passes_iff
    {arc : FeatureArc}
    {chosen : EdgePredicate} :
    arc.passes chosen = true ↔
      arc.link = none ∨ ∃ edge, arc.link = some edge ∧ chosen edge = true := by
  unfold FeatureArc.passes
  cases arc.link <;> simp

variable {graph : FeatureGraph} {chosen : EdgePredicate}

theorem mem_leaving
    {id : FeatureId}
    {arc : FeatureArc} :
    arc ∈ graph.leaving.get id ↔ arc ∈ graph.arcs ∧ arc.source = id := by
  rw [graph.leaving_eq]
  exact Sequence.Index.mem_get_ofList

theorem mem_entering
    {id : FeatureId}
    {arc : FeatureArc} :
    arc ∈ graph.entering.get id ↔ arc ∈ graph.arcs ∧ arc.target = id := by
  rw [graph.entering_eq]
  exact Sequence.Index.mem_get_ofList

theorem mem_arcsFrom
    {id : FeatureId}
    {arc : FeatureArc} :
    arc ∈ graph.arcsFrom id ↔ arc ∈ graph.arcs ∧ arc.source = id := by
  unfold arcsFrom
  simp only [List.mem_flatMap, Sequence.mem_distinct, List.mem_map, List.mem_filter,
    decide_eq_true_eq]
  constructor
  · rintro ⟨_, -, member, -⟩
    exact mem_leaving.mp member
  · intro member
    exact ⟨arc.target, ⟨arc, mem_leaving.mpr member, rfl⟩, mem_leaving.mpr member, rfl⟩

/-- The direct needs of a node are what arcs that count lead to. -/
theorem mem_successors_iff
    {source target : FeatureId} :
    target ∈ graph.successors chosen source ↔ graph.Passing chosen source target := by
  simp only [successors, List.mem_map, List.mem_filter, mem_arcsFrom, passes_iff, Passing]
  constructor
  · rintro ⟨arc, ⟨⟨member, leaves⟩, counts⟩, enters⟩
    exact ⟨arc, member, leaves, enters, counts⟩
  · rintro ⟨arc, member, leaves, enters, counts⟩
    exact ⟨arc, ⟨⟨member, leaves⟩, counts⟩, enters⟩

/-- The arrows of a search through the graph are the arcs that count. -/
theorem arrow_successors :
    Digraph.Arrow (graph.successors chosen) = graph.Passing chosen := by
  funext source target
  exact propext mem_successors_iff

theorem successors_subset :
    ∀ node ∈ graph.nodes, graph.successors chosen node ⊆ graph.nodes := by
  intro node _ target arrow
  obtain ⟨arc, member, -, rfl, -⟩ := mem_successors_iff.mp arrow
  exact graph.target_mem arc member

/-! ### The closure as a search -/

/-- What a start adds to the closure is what a search finds behind it. -/
theorem closeFrom_eq
    {done : List FeatureId}
    {start : FeatureId}
    (known : start ∈ graph.nodes) :
    graph.closeFrom chosen done start =
      (Digraph.followArrow (graph.successors chosen) graph.nodes.length [] done start).mapError
        .cycle := by
  unfold closeFrom Digraph.followArrow
  by_cases left : start ∈ done
  · simp [left, Except.mapError]
  · simp [left, known]

/-- The closure of nodes of the graph is one search from all of them. -/
theorem closure_eq
    {starts : List FeatureId}
    (known : starts ⊆ graph.nodes) :
    graph.closure starts chosen =
      (starts.foldlM (Digraph.followArrow (graph.successors chosen) graph.nodes.length [])
        []).mapError .cycle := by
  have general :
      ∀ done,
        starts.foldlM (graph.closeFrom chosen) done =
          (starts.foldlM (Digraph.followArrow (graph.successors chosen) graph.nodes.length [])
            done).mapError .cycle := by
    induction starts with
    | nil =>
        intro done
        rfl
    | cons start rest inductionHypothesis =>
        obtain ⟨startKnown, restKnown⟩ := List.cons_subset.mp known
        intro done
        rw [List.foldlM_cons, List.foldlM_cons, closeFrom_eq startKnown]
        cases Digraph.followArrow (graph.successors chosen) graph.nodes.length [] done start with
        | error cycle =>
            rfl
        | ok after =>
            exact inductionHypothesis restKnown after
  exact general []

/-- What the closure of nodes of the graph gives. -/
theorem outcome_closure
    (chosen : EdgePredicate)
    {starts : List FeatureId}
    (known : starts ⊆ graph.nodes) :
    ∃ outcome : Except (List FeatureId) (List FeatureId),
      graph.closure starts chosen = outcome.mapError .cycle ∧
        Digraph.Outcome (graph.successors chosen) [] starts [] outcome :=
  ⟨_, closure_eq known, Digraph.outcome_starts successors_subset known⟩

/-- A closure is what a search without a cycle finds. -/
theorem finishes_of_closure
    {starts result : List FeatureId}
    (known : starts ⊆ graph.nodes)
    (closes : graph.closure starts chosen = .ok result) :
    Digraph.Finishes (graph.successors chosen) [] starts [] result := by
  obtain ⟨outcome, same, holds⟩ := outcome_closure chosen known
  rw [closes] at same
  cases outcome with
  | error cycle =>
      cases same
  | ok after =>
      cases same
      exact holds

/-- A cycle that is met is what a search finds that meets one. -/
theorem loops_of_closure
    {starts cycle : List FeatureId}
    (known : starts ⊆ graph.nodes)
    (fails : graph.closure starts chosen = .error (.cycle cycle)) :
    Digraph.Loops (graph.successors chosen) [] starts cycle := by
  obtain ⟨outcome, same, holds⟩ := outcome_closure chosen known
  rw [fails] at same
  cases outcome with
  | error found =>
      cases same
      exact holds
  | ok after =>
      cases same

/-- Nodes of the graph have a closure or meet a cycle. -/
theorem closure_ok_or_cycle
    (chosen : EdgePredicate)
    {starts : List FeatureId}
    (known : starts ⊆ graph.nodes) :
    (∃ result, graph.closure starts chosen = .ok result) ∨
      ∃ cycle, graph.closure starts chosen = .error (.cycle cycle) := by
  obtain ⟨outcome, same, -⟩ := outcome_closure chosen known
  cases outcome with
  | error cycle =>
      exact Or.inr ⟨cycle, same⟩
  | ok result =>
      exact Or.inl ⟨result, same⟩

/-- The closure of some nodes is all that they need. -/
theorem mem_closure_iff
    {starts result : List FeatureId}
    (known : starts ⊆ graph.nodes)
    (closes : graph.closure starts chosen = .ok result)
    {node : FeatureId} :
    node ∈ result ↔ ∃ start ∈ starts, graph.Needs chosen start node := by
  have finishes := finishes_of_closure known closes
  constructor
  · intro member
    rcases finishes.new_node node member with before | ⟨start, startMember, path⟩
    · cases before
    · rw [Digraph.Reaches, arrow_successors] at path
      exact ⟨start, startMember, path⟩
  · rintro ⟨start, startMember, path⟩
    rw [Needs, ← arrow_successors] at path
    exact Digraph.Reaches.mem_of_closed path finishes.finished.closed
      (finishes.sources_subset startMember)

/-- A cycle is met exactly where the starts need something that needs itself. -/
theorem closure_cycle_iff
    {starts : List FeatureId}
    (known : starts ⊆ graph.nodes) :
    (∃ cycle, graph.closure starts chosen = .error (.cycle cycle)) ↔
      ∃ start ∈ starts, ∃ node,
        graph.Needs chosen start node ∧ Relation.TransGen (graph.Passing chosen) node node := by
  constructor
  · rintro ⟨cycle, fails⟩
    have loops := loops_of_closure known fails
    obtain ⟨node, member, turn⟩ := loops.isCycle.exists_transGen
    rcases loops.known node member with onPath | ⟨start, startMember, path⟩
    · cases onPath
    · rw [Digraph.Reaches, arrow_successors] at path
      rw [arrow_successors] at turn
      exact ⟨start, startMember, node, path, turn⟩
  · rintro ⟨start, startMember, node, path, turn⟩
    rcases closure_ok_or_cycle chosen known with ⟨result, closes⟩ | fails
    · have member : node ∈ result :=
        (mem_closure_iff known closes).mpr ⟨start, startMember, path⟩
      rw [← arrow_successors] at turn
      exact absurd turn ((finishes_of_closure known closes).finished.not_transGen_self member)
    · exact fails

/-! ### Starts that are no nodes -/

/-- What a node of the graph needs is a node of the graph. -/
theorem Needs.mem_nodes
    {source target : FeatureId}
    (path : graph.Needs chosen source target)
    (member : source ∈ graph.nodes) :
    target ∈ graph.nodes := by
  rw [Needs, ← arrow_successors] at path
  exact Digraph.Reaches.mem_of_closed path successors_subset member

/-- The closure ends in front of a start that is no node. -/
theorem closure_append_unknown
    {earlier later result : List FeatureId}
    {unknown : FeatureId}
    (known : earlier ⊆ graph.nodes)
    (missing : unknown ∉ graph.nodes)
    (closes : graph.closure earlier chosen = .ok result) :
    graph.closure (earlier ++ unknown :: later) chosen = .error (.notInGraph unknown) := by
  have notDone : unknown ∉ result := by
    intro member
    obtain ⟨start, isStart, path⟩ := (mem_closure_iff known closes).mp member
    exact missing (path.mem_nodes (known isStart))
  have ends : graph.closeFrom chosen result unknown = .error (.notInGraph unknown) := by
    rw [closeFrom, if_neg notDone, if_pos missing]
  rw [closure] at closes
  rw [closure, List.foldlM_append, closes]
  change (graph.closeFrom chosen result unknown).bind _ = _
  rw [ends]
  rfl

/-- A cycle that is met is met whatever starts follow. -/
theorem closure_append_of_cycle
    {earlier cycle : List FeatureId}
    (later : List FeatureId)
    (fails : graph.closure earlier chosen = .error (.cycle cycle)) :
    graph.closure (earlier ++ later) chosen = .error (.cycle cycle) := by
  rw [closure] at fails
  rw [closure, List.foldlM_append, fails]
  rfl

/-- Starts are nodes of the graph, or the closure ends in front of the first that is none, unless
the nodes before it meet a cycle. -/
theorem closure_of_any_starts
    (graph : FeatureGraph)
    (starts : List FeatureId)
    (chosen : EdgePredicate) :
    starts ⊆ graph.nodes ∨
      (∃ unknown, graph.closure starts chosen = .error (.notInGraph unknown)) ∨
        ∃ earlier ⊆ graph.nodes, ∃ cycle,
          graph.closure earlier chosen = .error (.cycle cycle) ∧
            graph.closure starts chosen = .error (.cycle cycle) := by
  cases found : starts.find? fun start => start ∉ graph.nodes with
  | none =>
      refine Or.inl fun start member => ?_
      simpa using List.find?_eq_none.mp found start member
  | some unknown =>
      obtain ⟨isMissing, earlier, later, rfl, before⟩ := List.find?_eq_some_iff_append.mp found
      have known : earlier ⊆ graph.nodes := fun start member => by simpa using before start member
      have missing : unknown ∉ graph.nodes := by simpa using isMissing
      rcases closure_ok_or_cycle chosen known with ⟨result, closes⟩ | ⟨cycle, fails⟩
      · exact Or.inr (Or.inl ⟨unknown, closure_append_unknown known missing closes⟩)
      · exact Or.inr (Or.inr ⟨earlier, known, cycle, fails, closure_append_of_cycle _ fails⟩)

/-- What has a closure are nodes of the graph. -/
theorem known_of_closure
    {starts result : List FeatureId}
    (closes : graph.closure starts chosen = .ok result) :
    starts ⊆ graph.nodes := by
  rcases graph.closure_of_any_starts starts chosen with
    known | ⟨unknown, fails⟩ | ⟨_, _, cycle, _, fails⟩
  · exact known
  · cases closes.symm.trans fails
  · cases closes.symm.trans fails

/-- A closure lists each node once. -/
theorem nodup_of_closure
    {starts result : List FeatureId}
    (closes : graph.closure starts chosen = .ok result) :
    result.Nodup :=
  (finishes_of_closure (known_of_closure closes) closes).finished.nodup

/-- A cycle that is met is one of arcs that count, whatever the starts are. -/
theorem isCycle_of_closure
    {starts cycle : List FeatureId}
    (fails : graph.closure starts chosen = .error (.cycle cycle)) :
    Digraph.IsCycle (graph.Passing chosen) cycle := by
  rw [← arrow_successors]
  rcases graph.closure_of_any_starts starts chosen with
    known | ⟨unknown, ends⟩ | ⟨earlier, known, other, earlierFails, same⟩
  · exact (loops_of_closure known fails).isCycle
  · cases fails.symm.trans ends
  · cases fails.symm.trans same
    exact (loops_of_closure known earlierFails).isCycle

/-! ### The law of the closure -/

/-- The closure of nodes of the graph either ends or tells of a cycle, and it tells of one exactly
where a cycle of arcs that count can be reached.  If it ends, it lists all that can be reached, each
node once and behind all that it leads to.  If it tells of a cycle, that is one, and it can be
reached. -/
theorem closure_spec
    (graph : FeatureGraph)
    (starts : List FeatureId)
    (chosen : EdgePredicate)
    (known : starts ⊆ graph.nodes) :
    ((∃ result, graph.closure starts chosen = .ok result) ∨
      ∃ cycle, graph.closure starts chosen = .error (.cycle cycle)) ∧
    ((∃ cycle, graph.closure starts chosen = .error (.cycle cycle)) ↔
      ∃ start ∈ starts, ∃ node,
        graph.Needs chosen start node ∧ Relation.TransGen (graph.Passing chosen) node node) ∧
    (∀ result, graph.closure starts chosen = .ok result →
      result.Nodup ∧
      (∀ node, node ∈ result ↔ ∃ start ∈ starts, graph.Needs chosen start node) ∧
      ∀ source ∈ result, ∀ target,
        graph.Passing chosen source target → [target, source].Sublist result) ∧
    ∀ cycle, graph.closure starts chosen = .error (.cycle cycle) →
      Digraph.IsCycle (graph.Passing chosen) cycle ∧
      ∀ node ∈ cycle, ∃ start ∈ starts, graph.Needs chosen start node := by
  refine ⟨closure_ok_or_cycle chosen known, closure_cycle_iff known, ?_, ?_⟩
  · intro result closes
    have finished := (finishes_of_closure known closes).finished
    refine ⟨finished.nodup, fun node => mem_closure_iff known closes, ?_⟩
    intro source member target arc
    rw [← arrow_successors] at arc
    exact finished.sublist_of_arrow member arc
  · intro cycle fails
    have loops := loops_of_closure known fails
    have isCycle := loops.isCycle
    rw [arrow_successors] at isCycle
    refine ⟨isCycle, ?_⟩
    intro node member
    rcases loops.known node member with onPath | ⟨start, startMember, path⟩
    · cases onPath
    · rw [Digraph.Reaches, arrow_successors] at path
      exact ⟨start, startMember, path⟩

/-! ### A package whose features need each other -/

/-- The id of the package. -/
def pingPongId : PackageId :=
  ⟨"app 1.0.0", by decide⟩

/-- A package that has a feature `std` and two features that need each other. -/
def pingPong : PackageGraph :=
  .ofParts [.sample pingPongId [("std", []), ("ping", ["pong"]), ("pong", ["std", "ping"])]] []
    ⟨none, [pingPongId]⟩ (List.pairwise_singleton _ _)
    (.nil : List.Pairwise (InvImage (· < ·) Edge.index) [])
    (List.forall_mem_nil _) (List.forall_mem_nil _)

/-- The closure of `ping` is the cycle of `ping` and `pong`, that of `std` ends. -/
theorem closure_pingPong :
    let graph := pingPong.featureGraph
    [.named pingPongId "std"] ⊆ graph.nodes ∧
      [.named pingPongId "ping"] ⊆ graph.nodes ∧
      (∃ result, graph.closure [.named pingPongId "std"] .everything = .ok result ∧
        ∀ node, node ∈ result ↔
          ∃ start ∈ [FeatureId.named pingPongId "std"], graph.Needs .everything start node) ∧
      ∃ cycle, graph.closure [.named pingPongId "ping"] .everything = .error (.cycle cycle) ∧
        Digraph.IsCycle (graph.Passing .everything) cycle := by
  intro graph
  have stdKnown : [FeatureId.named pingPongId "std"] ⊆ graph.nodes := by
    decide +kernel
  have pingKnown : [FeatureId.named pingPongId "ping"] ⊆ graph.nodes := by
    decide +kernel
  have closes :
      graph.closure [.named pingPongId "std"] .everything =
        .ok [.base pingPongId, .named pingPongId "std"] := by
    decide +kernel
  have fails :
      graph.closure [.named pingPongId "ping"] .everything =
        .error (.cycle [.named pingPongId "ping", .named pingPongId "pong"]) := by
    decide +kernel
  obtain ⟨-, -, ends, -⟩ := closure_spec graph _ .everything stdKnown
  obtain ⟨-, -, -, meets⟩ := closure_spec graph _ .everything pingKnown
  exact ⟨stdKnown, pingKnown, ⟨_, closes, (ends _ closes).2.1⟩, _, fails, (meets _ fails).1⟩

end CargoDeps.FeatureGraph
