import CargoDeps.Proofs.Digraph.Component
import CargoDeps.Proofs.Feature.Activation

namespace CargoDeps.FeatureGraph

/-!
# The cycles of a feature graph

A feature graph holds a cycle where some of its features need each other, if all dependency edges
are chosen.  Such features are listed as a component of the graph, and whatever cycle a closure
meets, along whatever edges, runs inside one of the components listed.
-/

open Relation (ReflTransGen TransGen)

/-- Some arc leads from one node to another. -/
def Joins
    (graph : FeatureGraph)
    (source target : FeatureId) : Prop :=
  ∃ arc ∈ graph.arcs, arc.source = source ∧ arc.target = target

/-- A strongly connected component: what a node leads to and is led to by. -/
def IsComponent
    (graph : FeatureGraph)
    (members : Set FeatureId) : Prop :=
  ∃ node ∈ graph.nodes, members = Digraph.classOf graph.Joins node

/-- A component with a closed path: it has several nodes, or its only node leads to itself. -/
def IsCyclicComponent
    (graph : FeatureGraph)
    (members : Set FeatureId) : Prop :=
  graph.IsComponent members ∧
    (members.Nontrivial ∨ ∃ only, members = {only} ∧ graph.Joins only only)

variable {graph : FeatureGraph} {chosen : EdgePredicate} {source target : FeatureId}

/-! ### All arcs -/

theorem Joins.source_mem
    (joins : graph.Joins source target) :
    source ∈ graph.nodes := by
  obtain ⟨arc, member, rfl, -⟩ := joins
  exact graph.source_mem arc member

theorem Joins.target_mem
    (joins : graph.Joins source target) :
    target ∈ graph.nodes := by
  obtain ⟨arc, member, -, rfl⟩ := joins
  exact graph.target_mem arc member

theorem Passing.joins
    (passing : graph.Passing chosen source target) :
    graph.Joins source target := by
  obtain ⟨arc, member, leaves, enters, -⟩ := passing
  exact ⟨arc, member, leaves, enters⟩

/-- Where all edges are chosen, all arcs count. -/
theorem passing_everything : graph.Passing .everything = graph.Joins := by
  funext source target
  apply propext
  constructor
  · exact Passing.joins
  · intro joins
    obtain ⟨arc, member, leaves, enters⟩ := joins
    refine ⟨arc, member, leaves, enters, ?_⟩
    cases arc.link with
    | none =>
        exact Or.inl rfl
    | some edge =>
        exact Or.inr ⟨edge, rfl, rfl⟩

theorem mem_next_digraph :
    target ∈ graph.digraph.next source ↔ graph.Joins source target := by
  simp only [digraph, Joins, Sequence.mem_distinct, List.mem_map, mem_leaving, and_assoc]

theorem mem_prev_digraph :
    source ∈ graph.digraph.prev target ↔ graph.Joins source target := by
  simp only [digraph, Joins, Sequence.mem_distinct, List.mem_map, mem_entering, and_assoc]
  apply exists_congr
  intro arc
  rw [and_comm (a := arc.target = target)]

theorem arrow_digraph :
    Digraph.Arrow graph.digraph.next = graph.Joins := by
  funext source target
  exact propext mem_next_digraph

theorem sound_digraph : graph.digraph.Sound where
  next_mem := by
    intro source _ target arrow
    exact (mem_next_digraph.mp arrow).target_mem
  mem_prev_iff := by
    intro source _ target _
    rw [mem_prev_digraph, mem_next_digraph]
  prev_mem := by
    intro target _ source arrow
    exact (mem_prev_digraph.mp arrow).source_mem

/-- The cyclic components are those of the components that pass the test. -/
theorem isCyclicComponent_iff
    {members : Set FeatureId} :
    graph.IsCyclicComponent members ↔
      ∃ component ∈ graph.digraph.components,
        graph.digraph.isCyclic component = true ∧ {node | node ∈ component} = members := by
  refine .trans ?_ (Digraph.exists_cyclic_component_iff sound_digraph graph.distinct_nodes).symm
  rw [arrow_digraph]
  exact Iff.rfl

/-! ### The components listed -/

theorem mem_findCycles
    {listed : List FeatureId} :
    listed ∈ graph.findCycles ↔
      ∃ component ∈ graph.digraph.components,
        graph.digraph.isCyclic component = true ∧ FeatureId.ascending component = listed := by
  simp [findCycles, Sequence.mem_sorted, and_assoc]

/-- The components listed are the cyclic components. -/
theorem exists_mem_findCycles_iff
    {members : Set FeatureId} :
    (∃ listed ∈ graph.findCycles, {node | node ∈ listed} = members) ↔
      graph.IsCyclicComponent members := by
  have sameMembers :
      ∀ component, {node | node ∈ FeatureId.ascending component} = {node | node ∈ component} :=
    fun component => Set.ext fun node => Sequence.mem_sorted
  simp only [isCyclicComponent_iff, mem_findCycles]
  constructor
  · intro found
    obtain ⟨_, ⟨component, inGraph, isCyclic, rfl⟩, same⟩ := found
    exact ⟨component, inGraph, isCyclic, (sameMembers component).symm.trans same⟩
  · intro found
    obtain ⟨component, inGraph, isCyclic, same⟩ := found
    exact ⟨_, ⟨component, inGraph, isCyclic, rfl⟩, (sameMembers component).trans same⟩

/-- A component listed is the class of each of its nodes. -/
theorem setOf_listed_eq
    {listed : List FeatureId}
    {node : FeatureId}
    (found : listed ∈ graph.findCycles)
    (member : node ∈ listed) :
    {other | other ∈ listed} = Digraph.classOf graph.Joins node := by
  obtain ⟨⟨center, -, same⟩, -⟩ := exists_mem_findCycles_iff.mp ⟨listed, found, rfl⟩
  have inClass : node ∈ Digraph.classOf graph.Joins center := same ▸ member
  rw [same, Digraph.classOf_eq inClass]

/-- The nodes of the components listed are those on closed paths. -/
theorem exists_listed_iff
    {node : FeatureId} :
    (∃ listed ∈ graph.findCycles, node ∈ listed) ↔ TransGen graph.Joins node node := by
  rw [← Digraph.cyclic_classOf_iff]
  constructor
  · intro inListed
    obtain ⟨listed, found, member⟩ := inListed
    obtain ⟨-, cyclic⟩ := exists_mem_findCycles_iff.mp ⟨listed, found, rfl⟩
    exact setOf_listed_eq found member ▸ cyclic
  · intro cyclic
    obtain ⟨next, joins, -⟩ := TransGen.head'_iff.mp (Digraph.cyclic_classOf_iff.mp cyclic)
    obtain ⟨listed, found, same⟩ :=
      exists_mem_findCycles_iff.mpr ⟨⟨node, joins.source_mem, rfl⟩, cyclic⟩
    have member : node ∈ {other | other ∈ listed} := same ▸ Digraph.mem_classOf_self
    exact ⟨listed, found, member⟩

/-- Components are listed with their nodes in ascending order. -/
theorem pairwise_lt_listed
    {listed : List FeatureId}
    (found : listed ∈ graph.findCycles) :
    listed.Pairwise (· < ·) := by
  obtain ⟨component, inGraph, -, rfl⟩ := mem_findCycles.mp found
  have isComponent := Digraph.isComponent_of_mem_components sound_digraph inGraph
  exact Sequence.pairwise_lt_sorted FeatureId.before_iff_lt
    (isComponent.sublist.nodup graph.distinct_nodes)

/-- The components are listed once and in ascending order. -/
theorem pairwise_lt_findCycles : graph.findCycles.Pairwise (· < ·) := by
  refine Sequence.pairwise_lt_sorted FeatureId.listBefore_iff_lt ?_
  rw [List.Nodup, List.pairwise_map]
  refine ((Digraph.disjoint_components sound_digraph).filter _).imp_of_mem ?_
  -- A component has a node, so it is not listed like one that it shares no node with.
  intro first second firstKept _ disjoint same
  have isComponent :=
    Digraph.isComponent_of_mem_components sound_digraph (List.mem_filter.mp firstKept).1
  obtain ⟨node, inFirst⟩ := List.exists_mem_of_ne_nil first isComponent.ne_nil
  have inSecond : node ∈ FeatureId.ascending second := same ▸ Sequence.mem_sorted.mpr inFirst
  exact disjoint inFirst (Sequence.mem_sorted.mp inSecond)

/-! ### The cycles met -/

/-- A cycle of arcs runs inside a component that is listed. -/
theorem exists_listed_of_isCycle
    {cycle : List FeatureId}
    (isCycle : Digraph.IsCycle (graph.Passing chosen) cycle) :
    ∃ listed ∈ graph.findCycles, cycle ⊆ listed := by
  have ofJoins : Digraph.IsCycle graph.Joins cycle :=
    isCycle.imp fun _ _ _ _ => Passing.joins
  obtain ⟨node, onCycle, closedPath⟩ := ofJoins.exists_transGen
  obtain ⟨listed, found, member⟩ := exists_listed_iff.mpr closedPath
  refine ⟨listed, found, ?_⟩
  intro other otherOnCycle
  have inClass : other ∈ Digraph.classOf graph.Joins node :=
    ⟨ofJoins.reaches onCycle otherOnCycle, ofJoins.reaches otherOnCycle onCycle⟩
  rw [← setOf_listed_eq found member] at inClass
  exact inClass

/-- Along all edges, nodes of the graph meet a cycle if they lead to a component that is listed. -/
theorem closure_everything_cycle_iff
    {starts : List FeatureId}
    (known : starts ⊆ graph.nodes) :
    (∃ cycle, graph.closure starts .everything = .error (.cycle cycle)) ↔
      ∃ start ∈ starts, ∃ listed ∈ graph.findCycles, ∃ node ∈ listed,
        ReflTransGen graph.Joins start node := by
  rw [closure_cycle_iff known]
  simp only [Needs, passing_everything, ← exists_listed_iff]
  constructor
  · intro met
    obtain ⟨start, isStart, node, path, listed, found, member⟩ := met
    exact ⟨start, isStart, listed, found, node, member, path⟩
  · intro reached
    obtain ⟨start, isStart, listed, found, node, member, path⟩ := reached
    exact ⟨start, isStart, node, path, listed, found, member⟩

/-- A cycle that an activation meets runs inside a component that is listed. -/
theorem exists_listed_of_activate
    {package : PackageId}
    {requested : List String}
    {cycle : List FeatureId}
    (fails : graph.activate package requested chosen = .error (.walk (.cycle cycle))) :
    ∃ listed ∈ graph.findCycles, cycle ⊆ listed := by
  obtain ⟨-, closureFails⟩ := activate_eq_walk_iff.mp fails
  exact exists_listed_of_isCycle (isCycle_of_closure closureFails)

/--
The components listed are exactly the cyclic components of the graph, each in ascending order, in
ascending order.

Along all edges, a closure of nodes of the graph meets a cycle exactly where a node of a component
listed can be reached.  A cycle that is met along whatever edges runs inside a component listed, so
without such components no activation meets one.
-/
theorem closure_agrees_with_findCycles
    (graph : FeatureGraph) :
    (∀ members : Set FeatureId,
      (∃ listed ∈ graph.findCycles, {node | node ∈ listed} = members) ↔
        graph.IsCyclicComponent members) ∧
    (∀ listed ∈ graph.findCycles, listed.Pairwise (· < ·)) ∧
    graph.findCycles.Pairwise (· < ·) ∧
    (∀ starts ⊆ graph.nodes,
      (∃ cycle, graph.closure starts .everything = .error (.cycle cycle)) ↔
        ∃ start ∈ starts, ∃ listed ∈ graph.findCycles, ∃ node ∈ listed,
          ReflTransGen graph.Joins start node) ∧
    (∀ starts chosen cycle,
      graph.closure starts chosen = .error (.cycle cycle) →
      ∃ listed ∈ graph.findCycles, cycle ⊆ listed) ∧
    (∀ package requested chosen cycle,
      graph.activate package requested chosen = .error (.walk (.cycle cycle)) →
      ∃ listed ∈ graph.findCycles, cycle ⊆ listed) ∧
    (graph.findCycles = [] →
      ∀ package requested chosen cycle,
        graph.activate package requested chosen ≠ .error (.walk (.cycle cycle)) ∧
          graph.activatePackages package requested chosen ≠ .error (.walk (.cycle cycle))) := by
  refine ⟨fun members => exists_mem_findCycles_iff, fun listed => pairwise_lt_listed,
    pairwise_lt_findCycles, fun starts => closure_everything_cycle_iff,
    fun starts chosen cycle fails => exists_listed_of_isCycle (isCycle_of_closure fails),
    fun package requested chosen cycle => exists_listed_of_activate, ?_⟩
  intro empty package requested chosen cycle
  have notMet :
      graph.activate package requested chosen ≠ .error (.walk (.cycle cycle)) := by
    intro fails
    obtain ⟨listed, found, -⟩ := exists_listed_of_activate fails
    simp [empty] at found
  exact ⟨notMet, activatePackages_error_iff.not.mpr notMet⟩

/-- The features `ping` and `pong` are a component of their own, and a closure of `ping` meets it. -/
theorem findCycles_pingPong :
    let graph := pingPong.featureGraph
    let component := [FeatureId.named pingPongId "ping", .named pingPongId "pong"]
    [.named pingPongId "ping"] ⊆ graph.nodes ∧
      graph.findCycles = [component] ∧
      graph.IsCyclicComponent {node | node ∈ component} ∧
      ∃ cycle,
        graph.closure [.named pingPongId "ping"] .everything = .error (.cycle cycle) ∧
          cycle ⊆ component := by
  intro graph component
  have known : [FeatureId.named pingPongId "ping"] ⊆ graph.nodes := by
    decide +kernel
  have found : graph.findCycles = [component] := by
    decide +kernel
  have listed : component ∈ graph.findCycles := by
    simp [found]
  obtain ⟨cyclic, -, -, meets, within, -⟩ := closure_agrees_with_findCycles graph
  obtain ⟨cycle, fails⟩ := (meets _ known).mpr
    ⟨_, List.mem_singleton_self _, component, listed, _, List.mem_cons_self, .refl⟩
  obtain ⟨other, otherListed, inside⟩ := within _ _ _ fails
  obtain rfl : other = component := by
    simpa [found] using otherListed
  exact ⟨known, found, (cyclic _).mp ⟨component, listed, rfl⟩, cycle, fails, inside⟩

end CargoDeps.FeatureGraph
