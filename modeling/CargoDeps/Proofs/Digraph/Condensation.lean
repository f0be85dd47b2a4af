import CargoDeps.Proofs.Digraph.Component
import CargoDeps.Proofs.Digraph.Layers
import Mathlib.Data.List.Lattice

namespace CargoDeps.Digraph

/-!
# The graph of the components has no cycles

A path from one component to another is a path from each node of the first to each node of the
second, because the nodes of one component reach each other.  A path from a component back to itself
would make one component of all that it passes.  Hence the components can be listed layer by layer,
and what they list are all nodes of the graph.
-/

variable {α : Type} [DecidableEq α]

/-- A node lies in the component at a position. -/
def InComponent
    (graph : Digraph α)
    (position : Nat)
    (node : α) : Prop :=
  ∃ members, graph.components[position]? = some members ∧ node ∈ members

variable {graph : Digraph α} {position : Nat} {node other : α}

namespace InComponent

theorem lt_length
    (inComponent : graph.InComponent position node) :
    position < graph.components.length := by
  obtain ⟨members, found, -⟩ := inComponent
  exact (List.getElem?_eq_some_iff.mp found).1

theorem mem_nodes
    (sound : graph.Sound)
    (inComponent : graph.InComponent position node) :
    node ∈ graph.nodes := by
  obtain ⟨members, found, member⟩ := inComponent
  have isComponent := isComponent_of_mem_components sound (List.mem_of_getElem? found)
  exact isComponent.sublist.subset member

/-- The nodes of one component reach each other, and no others. -/
theorem mutual_iff
    (sound : graph.Sound)
    (inComponent : graph.InComponent position node) :
    Mutual graph.next node other ↔ graph.InComponent position other := by
  obtain ⟨members, found, member⟩ := inComponent
  have isComponent := isComponent_of_mem_components sound (List.mem_of_getElem? found)
  rw [← isComponent.mem_iff node member other]
  constructor
  · intro otherMember
    exact ⟨members, found, otherMember⟩
  · intro otherInComponent
    obtain ⟨others, otherFound, otherMember⟩ := otherInComponent
    obtain rfl : members = others := Option.some.inj (found.symm.trans otherFound)
    exact otherMember

/-- A node lies in one component only. -/
theorem position_eq
    (sound : graph.Sound)
    {otherPosition : Nat}
    (first : graph.InComponent position node)
    (second : graph.InComponent otherPosition node) :
    position = otherPosition := by
  obtain ⟨members, found, member⟩ := first
  obtain ⟨others, otherFound, otherMember⟩ := second
  obtain ⟨bound, rfl⟩ := List.getElem?_eq_some_iff.mp found
  obtain ⟨otherBound, rfl⟩ := List.getElem?_eq_some_iff.mp otherFound
  have disjoint := List.pairwise_iff_getElem.mp (disjoint_components sound)
  rcases Nat.lt_trichotomy position otherPosition with before | same | behind
  · exact (disjoint position otherPosition bound otherBound before member otherMember).elim
  · exact same
  · exact (disjoint otherPosition position otherBound bound behind otherMember member).elim

end InComponent

/-- The position of the component that holds a node. -/
theorem inComponent_componentOf
    (sound : graph.Sound)
    (member : node ∈ graph.nodes) :
    graph.InComponent (componentOf graph.components node) node := by
  obtain ⟨members, listed, nodeMember⟩ := exists_component sound member
  have bound : componentOf graph.components node < graph.components.length :=
    List.findIdx_lt_length_of_exists ⟨members, listed, by simpa using nodeMember⟩
  refine ⟨_, List.getElem?_eq_getElem bound, ?_⟩
  have holds := List.findIdx_getElem (w := bound)
  exact of_decide_eq_true holds

theorem componentOf_eq_iff
    (sound : graph.Sound)
    (member : node ∈ graph.nodes) :
    componentOf graph.components node = position ↔ graph.InComponent position node := by
  have stands := inComponent_componentOf sound member
  constructor
  · intro same
    exact same ▸ stands
  · intro inComponent
    exact stands.position_eq sound inComponent

/-! ### The arrows between components -/

theorem mem_crossings
    (sound : graph.Sound)
    {first second : Nat} :
    (first, second) ∈ Sequence.distinct (graph.crossings graph.components) ↔
      first ≠ second ∧
        ∃ source target,
          graph.InComponent first source ∧
            graph.InComponent second target ∧
              Arrow graph.next source target := by
  simp only [crossings, Sequence.mem_distinct, List.mem_filter, List.mem_flatMap, List.mem_map,
    Prod.mk.injEq, decide_eq_true_eq]
  constructor
  · intro crossing
    obtain ⟨⟨source, sourceMember, target, arrow, atFirst, atSecond⟩, different⟩ := crossing
    have targetMember := sound.next_mem source sourceMember target arrow
    exact ⟨different, source, target, (componentOf_eq_iff sound sourceMember).mp atFirst,
      (componentOf_eq_iff sound targetMember).mp atSecond, arrow⟩
  · intro crossing
    obtain ⟨different, source, target, inFirst, inSecond, arrow⟩ := crossing
    have sourceMember := inFirst.mem_nodes sound
    have targetMember := inSecond.mem_nodes sound
    exact ⟨⟨source, sourceMember, target, arrow,
      (componentOf_eq_iff sound sourceMember).mpr inFirst,
      (componentOf_eq_iff sound targetMember).mpr inSecond⟩, different⟩

/-- An arrow between two components is an arrow between nodes of theirs. -/
theorem arrow_condensation
    (sound : graph.Sound)
    {first second : Nat} :
    Arrow (graph.condensation graph.components).next first second ↔
      first ≠ second ∧
        ∃ source target,
          graph.InComponent first source ∧
            graph.InComponent second target ∧
              Arrow graph.next source target := by
  rw [← mem_crossings sound]
  simp [Arrow, condensation]

theorem mem_prev_condensation
    {first second : Nat} :
    first ∈ (graph.condensation graph.components).prev second ↔
      Arrow (graph.condensation graph.components).next first second := by
  simp [Arrow, condensation]

theorem mem_nodes_condensation :
    position ∈ (graph.condensation graph.components).nodes ↔
      position < graph.components.length :=
  List.mem_range

theorem sound_condensation
    (sound : graph.Sound) :
    (graph.condensation graph.components).Sound where
  next_mem := by
    intro first _ second arrow
    obtain ⟨-, _, _, -, inSecond, -⟩ := (arrow_condensation sound).mp arrow
    exact mem_nodes_condensation.mpr inSecond.lt_length
  mem_prev_iff := by
    intro first _ second _
    exact mem_prev_condensation
  prev_mem := by
    intro second _ first back
    obtain ⟨-, _, _, inFirst, -, -⟩ :=
      (arrow_condensation sound).mp (mem_prev_condensation.mp back)
    exact mem_nodes_condensation.mpr inFirst.lt_length

theorem nodup_next_condensation
    (position : Nat) :
    ((graph.condensation graph.components).next position).Nodup := by
  apply List.Nodup.map_on
  · intro first firstMember second secondMember same
    obtain ⟨-, firstSource⟩ := List.mem_filter.mp firstMember
    obtain ⟨-, secondSource⟩ := List.mem_filter.mp secondMember
    exact Prod.ext ((of_decide_eq_true firstSource).trans (of_decide_eq_true secondSource).symm) same
  · exact (Sequence.nodup_distinct _).filter _

/-- A path between components is a path between all nodes of theirs. -/
theorem reaches_of_reaches_condensation
    (sound : graph.Sound)
    {first second : Nat}
    (path : Reaches (graph.condensation graph.components).next first second)
    {source target : α}
    (inFirst : graph.InComponent first source)
    (inSecond : graph.InComponent second target) :
    Reaches graph.next source target := by
  -- The arrows of the path join some nodes of the components; inside them any two nodes are joined.
  induction path generalizing target with
  | refl =>
      exact ((inFirst.mutual_iff sound).mpr inSecond).1
  | @tail middle last _ arrow inductionHypothesis =>
      obtain ⟨-, leaving, entered, inMiddle, inLast, crossing⟩ :=
        (arrow_condensation sound).mp arrow
      have inside : Reaches graph.next entered target :=
        ((inLast.mutual_iff sound).mpr inSecond).1
      exact (inductionHypothesis inMiddle).trans (.head crossing inside)

/-- Components that lead to each other would be one component. -/
theorem acyclic_condensation
    (sound : graph.Sound) :
    (graph.condensation graph.components).Acyclic := by
  intro position _ cycle
  obtain ⟨between, arrow, back⟩ := Relation.TransGen.head'_iff.mp cycle
  obtain ⟨different, source, target, inFirst, inSecond, crossing⟩ :=
    (arrow_condensation sound).mp arrow
  have both : Mutual graph.next source target :=
    ⟨.single crossing, reaches_of_reaches_condensation sound back inSecond inFirst⟩
  have inBoth : graph.InComponent position target :=
    (inFirst.mutual_iff sound).mp both
  exact different (inBoth.position_eq sound inSecond)

/-! ### The components in topological order -/

theorem perm_positions
    (sound : graph.Sound) :
    (graph.condensation graph.components).topologicalOrder.Perm
      (List.range graph.components.length) :=
  topologicalOrder_perm (sound_condensation sound) List.nodup_range nodup_next_condensation
    (acyclic_condensation sound)

/-- All components together hold each node once. -/
theorem perm_flatten_components
    (sound : graph.Sound)
    (nodup : graph.nodes.Nodup) :
    graph.components.flatten.Perm graph.nodes := by
  have isComponent :
      ∀ members ∈ graph.components, graph.IsComponent members :=
    fun _ listed => isComponent_of_mem_components sound listed
  have distinct : graph.components.flatten.Nodup :=
    List.nodup_flatten.mpr
      ⟨fun members listed => (isComponent members listed).sublist.nodup nodup,
        disjoint_components sound⟩
  apply (List.perm_ext_iff_of_nodup distinct nodup).mpr
  intro node
  rw [List.mem_flatten]
  constructor
  · intro inSome
    obtain ⟨members, listed, member⟩ := inSome
    exact (isComponent members listed).sublist.subset member
  · intro member
    exact exists_component sound member

/-- Component by component in topological order, each node of the graph is listed once. -/
theorem perm_flatMap_components
    (sound : graph.Sound)
    (nodup : graph.nodes.Nodup) :
    ((graph.condensation graph.components).topologicalOrder.flatMap fun position =>
      (graph.components[position]?).getD []).Perm graph.nodes := by
  have inOrder :
      ((List.range graph.components.length).flatMap fun position =>
        (graph.components[position]?).getD []) = graph.components.flatten := by
    rw [List.flatMap_def]
    congr 1
    apply List.ext_getElem
    · simp
    · intro position _ bound
      simp [bound]
  have reordered :=
    (perm_positions sound).flatMap_right fun position => (graph.components[position]?).getD []
  rw [inOrder] at reordered
  exact reordered.trans (perm_flatten_components sound nodup)

end CargoDeps.Digraph
