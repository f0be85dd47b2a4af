import CargoDeps.Digraph.Component
import CargoDeps.Proofs.Digraph.BreadthFirst
import CargoDeps.Proofs.Digraph.DepthFirst
import Mathlib.Data.Set.Subsingleton

namespace CargoDeps.Digraph

/-!
# The components are the classes of mutual reachability

As long as only whole classes have been taken off, the class of a remaining node lies among the
remaining nodes, and with it every path between two of its members.  Two searches among the
remaining nodes then find the class.  Every node is taken off in the end, because a depth-first
search leaves every node.
-/

open Relation (ReflTransGen TransGen)

variable {α : Type}

/-! ### Classes of mutual reachability -/

section Class

variable {arrow : α → α → Prop} {node : α}

/-- The class of a node: what it leads to and is led to by. -/
def classOf
    (arrow : α → α → Prop)
    (node : α) : Set α :=
  {other | ReflTransGen arrow node other ∧ ReflTransGen arrow other node}

theorem mem_classOf_self :
    node ∈ classOf arrow node :=
  ⟨.refl, .refl⟩

/-- A class is that of each of its members. -/
theorem classOf_eq
    {other : α}
    (member : other ∈ classOf arrow node) :
    classOf arrow other = classOf arrow node := by
  obtain ⟨toOther, toNode⟩ := member
  ext third
  constructor
  · intro both
    exact ⟨toOther.trans both.1, both.2.trans toNode⟩
  · intro both
    exact ⟨toNode.trans both.1, both.2.trans toOther⟩

/-- A node lies on a closed path if its class has several members, or if it is alone there and has
an arrow to itself. -/
theorem cyclic_classOf_iff :
    ((classOf arrow node).Nontrivial ∨
        ∃ only, classOf arrow node = {only} ∧ arrow only only) ↔
      TransGen arrow node node := by
  constructor
  · intro isCyclic
    rcases isCyclic with several | ⟨only, alone, arrowBack⟩
    · obtain ⟨other, ⟨toOther, toNode⟩, different⟩ := several.exists_ne node
      rcases Relation.reflTransGen_iff_eq_or_transGen.mp toOther with same | path
      · exact absurd same different
      · exact path.trans_left toNode
    · have member : node ∈ classOf arrow node := mem_classOf_self
      rw [alone, Set.mem_singleton_iff] at member
      subst member
      exact .single arrowBack
  · intro closedPath
    obtain ⟨next, toNext, back⟩ := TransGen.head'_iff.mp closedPath
    have nextMember : next ∈ classOf arrow node := ⟨.single toNext, back⟩
    by_cases same : next = node
    · subst same
      rcases (classOf arrow next).eq_singleton_or_nontrivial nextMember with alone | several
      · exact Or.inr ⟨next, alone, toNext⟩
      · exact Or.inl several
    · exact Or.inl ⟨next, nextMember, node, mem_classOf_self, same⟩

end Class

/-! ### Taking components off -/

/-- A list of nodes is a class of mutual reachability, in the order of the graph. -/
structure IsComponent
    (graph : Digraph α)
    (members : List α) : Prop where
  sublist : members.Sublist graph.nodes
  ne_nil : members ≠ []
  mem_iff :
    ∀ node ∈ members, ∀ other,
      other ∈ members ↔ Mutual graph.next node other

/-- A node that is mutually reached from a node of the graph is a node of the graph. -/
theorem Mutual.mem_nodes
    {graph : Digraph α}
    (sound : graph.Sound)
    {node other : α}
    (both : Mutual graph.next node other)
    (member : node ∈ graph.nodes) :
    other ∈ graph.nodes :=
  both.1.mem_of_closed sound.next_subset member

variable {graph : Digraph α}

/-- The component of a node is its class, if the class has not been touched yet. -/
theorem mem_component_iff
    [DecidableEq α]
    (sound : graph.Sound)
    {remaining : List α}
    {node : α}
    (member : node ∈ graph.nodes)
    (untouched : ∀ other, Mutual graph.next node other → other ∈ remaining)
    {other : α} :
    other ∈ graph.component remaining node ↔ Mutual graph.next node other := by
  have mem_behind :
      ∀ found,
        found ∈ graph.reversed.reachWithin remaining node ↔
          Reaches (fun other => (graph.prev other).filter (· ∈ remaining)) node found :=
    fun _ => mem_reachWithin_iff sound.reversed remaining member
  simp only [component, List.mem_filter, decide_eq_true_eq,
    mem_reachWithin_iff sound _ member]
  constructor
  · rintro ⟨-, path⟩
    refine ⟨path.of_within, ?_⟩
    rcases path.eq_or_mem_of_within with rfl | behind
    · exact .refl
    · exact sound.reaches_of_prev member ((mem_behind other).mp behind).of_within
  · -- Whatever lies on paths between the two nodes is in their class, so it still remains.
    intro both
    refine ⟨both.mem_nodes sound member, both.1.within ?_⟩
    intro between fromNode toOther
    have betweenMember : between ∈ graph.nodes :=
      fromNode.mem_of_closed sound.next_subset member
    have toNode : Reaches graph.prev node between :=
      (sound.reaches_prev_iff betweenMember member).mpr (toOther.trans both.2)
    refine (mem_behind between).mpr (toNode.within ?_)
    intro inner innerFromNode innerToBetween
    have innerMember : inner ∈ graph.nodes :=
      innerFromNode.mem_of_closed sound.reversed.next_subset member
    have innerReaches : Reaches graph.next inner node :=
      sound.reaches_of_prev member innerFromNode
    have innerReached : Reaches graph.next between inner :=
      sound.reaches_of_prev innerMember innerToBetween
    exact untouched inner ⟨fromNode.trans innerReached, innerReaches⟩

/-- What holds while components are taken off. -/
structure Partition.Valid
    (graph : Digraph α)
    (partition : Partition α) : Prop where
  isComponent : ∀ members ∈ partition.taken, graph.IsComponent members
  disjoint : partition.taken.Pairwise List.Disjoint
  mem_remaining_iff :
    ∀ node,
      node ∈ partition.remaining ↔
        node ∈ graph.nodes ∧ ∀ members ∈ partition.taken, node ∉ members

namespace Partition.Valid

/-- Nothing has been taken off at first. -/
theorem start : Partition.Valid graph ⟨[], graph.nodes⟩ where
  isComponent := by simp
  disjoint := .nil
  mem_remaining_iff := by simp

/-- The class of a remaining node has not been touched. -/
theorem untouched
    {partition : Partition α}
    (sound : graph.Sound)
    (valid : partition.Valid graph)
    {node other : α}
    (remains : node ∈ partition.remaining)
    (both : Mutual graph.next node other) :
    other ∈ partition.remaining := by
  obtain ⟨member, notTaken⟩ := (valid.mem_remaining_iff node).mp remains
  refine (valid.mem_remaining_iff other).mpr ⟨both.mem_nodes sound member, ?_⟩
  intro members taken otherMember
  have nodeMember : node ∈ members :=
    ((valid.isComponent members taken).mem_iff other otherMember node).mpr both.symm
  exact notTaken members taken nodeMember

variable [DecidableEq α]

/-- What is taken off for a remaining node is its class. -/
theorem isComponent_component
    {partition : Partition α}
    (sound : graph.Sound)
    (valid : partition.Valid graph)
    {node : α}
    (remains : node ∈ partition.remaining) :
    graph.IsComponent (graph.component partition.remaining node) := by
  have member : node ∈ graph.nodes :=
    ((valid.mem_remaining_iff node).mp remains).1
  have mem_iff :
      ∀ other,
        other ∈ graph.component partition.remaining node ↔ Mutual graph.next node other :=
    fun _ => mem_component_iff sound member fun _ => valid.untouched sound remains
  refine ⟨List.filter_sublist, ?_, ?_⟩
  · exact List.ne_nil_of_mem ((mem_iff node).mpr (.refl node))
  · intro first firstMember second
    have firstBoth : Mutual graph.next node first :=
      (mem_iff first).mp firstMember
    rw [mem_iff second]
    exact ⟨firstBoth.symm.trans, firstBoth.trans⟩

/-- To take off one more component keeps what holds. -/
theorem takeOff
    {partition : Partition α}
    (sound : graph.Sound)
    (valid : partition.Valid graph)
    (node : α) :
    (graph.takeOff partition node).Valid graph := by
  unfold Digraph.takeOff
  split
  · next remains =>
      have member : node ∈ graph.nodes :=
        ((valid.mem_remaining_iff node).mp remains).1
      refine ⟨?_, ?_, ?_⟩
      · intro members taken
        rcases List.mem_cons.mp taken with rfl | takenBefore
        · exact valid.isComponent_component sound remains
        · exact valid.isComponent members takenBefore
      · refine List.pairwise_cons.mpr ⟨?_, valid.disjoint⟩
        intro members takenBefore other inNew inOld
        have both : Mutual graph.next node other :=
          (mem_component_iff sound member fun _ => valid.untouched sound remains).mp inNew
        have otherRemains : other ∈ partition.remaining :=
          valid.untouched sound remains both
        exact ((valid.mem_remaining_iff other).mp otherRemains).2 members takenBefore inOld
      · intro other
        simp only [List.mem_filter, decide_eq_true_eq, List.forall_mem_cons,
          valid.mem_remaining_iff other]
        tauto
  · exact valid

/-- After a row of nodes none of them remains. -/
theorem foldl_takeOff
    {partition : Partition α}
    (sound : graph.Sound)
    (valid : partition.Valid graph)
    (order : List α) :
    (order.foldl graph.takeOff partition).Valid graph ∧
      ∀ node ∈ (order.foldl graph.takeOff partition).remaining,
        node ∈ partition.remaining ∧ node ∉ order := by
  induction order generalizing partition with
  | nil =>
      exact ⟨valid, by simp⟩
  | cons first rest inductionHypothesis =>
      obtain ⟨validAfter, remainsAfter⟩ := inductionHypothesis (valid.takeOff sound first)
      refine ⟨validAfter, ?_⟩
      intro node remains
      obtain ⟨remainsBetween, notLater⟩ := remainsAfter node remains
      unfold Digraph.takeOff at remainsBetween
      split at remainsBetween
      · next firstRemains =>
          obtain ⟨remainsBefore, notTaken⟩ := List.mem_filter.mp remainsBetween
          have firstTaken : first ∈ graph.component partition.remaining first :=
            (mem_component_iff sound ((valid.mem_remaining_iff first).mp firstRemains).1
              fun _ => valid.untouched sound firstRemains).mpr (.refl first)
          have notFirst : node ≠ first := by
            rintro rfl
            simp [firstTaken] at notTaken
          exact ⟨remainsBefore, by simp [notFirst, notLater]⟩
      · next firstGone =>
          have notFirst : node ≠ first := by
            rintro rfl
            exact firstGone remainsBetween
          exact ⟨remainsBetween, by simp [notFirst, notLater]⟩

end Partition.Valid

variable [DecidableEq α]

/-- The components form a partition of which nothing remains. -/
theorem components_valid
    (sound : graph.Sound) :
    Partition.Valid graph ⟨graph.components, []⟩ := by
  obtain ⟨valid, remains⟩ :=
    Partition.Valid.foldl_takeOff sound Partition.Valid.start graph.leavingOrder.reverse
  have nothing :
      (graph.leavingOrder.reverse.foldl graph.takeOff ⟨[], graph.nodes⟩).remaining = [] := by
    rw [List.eq_nil_iff_forall_not_mem]
    intro node member
    obtain ⟨inGraph, notListed⟩ := remains node member
    exact notListed (by simpa using mem_leavingOrder sound inGraph)
  refine ⟨valid.isComponent, valid.disjoint, ?_⟩
  rw [← nothing]
  exact valid.mem_remaining_iff

/-- Each component is a class of mutual reachability. -/
theorem isComponent_of_mem_components
    (sound : graph.Sound)
    {members : List α}
    (member : members ∈ graph.components) :
    graph.IsComponent members :=
  (components_valid sound).isComponent members member

/-- No node lies in two components. -/
theorem disjoint_components
    (sound : graph.Sound) :
    graph.components.Pairwise List.Disjoint :=
  (components_valid sound).disjoint

/-- Every node lies in a component. -/
theorem exists_component
    (sound : graph.Sound)
    {node : α}
    (member : node ∈ graph.nodes) :
    ∃ members ∈ graph.components, node ∈ members := by
  by_contra missing
  have remains : node ∈ ([] : List α) := by
    refine ((components_valid sound).mem_remaining_iff node).mpr ⟨member, ?_⟩
    intro members taken nodeMember
    exact missing ⟨members, taken, nodeMember⟩
  cases remains

/-! ### Cyclic components -/

/-- The test for a cyclic component: it has several nodes, or an only one with an arrow to itself. -/
theorem isCyclic_iff
    {members : List α}
    (nodup : members.Nodup) :
    graph.isCyclic members = true ↔
      {node | node ∈ members}.Nontrivial ∨
        ∃ only, {node | node ∈ members} = {only} ∧ Arrow graph.next only only := by
  match members with
  | [] =>
      simp [isCyclic]
  | [node] =>
      simp [isCyclic, Arrow]
  | first :: second :: rest =>
      have different : first ≠ second := by
        rintro rfl
        simp at nodup
      refine iff_of_true rfl (Or.inl ?_)
      exact ⟨first, by simp, second, by simp, different⟩

/-- Each component is the class of each of its nodes. -/
theorem setOf_component_eq
    (sound : graph.Sound)
    {component : List α}
    (listed : component ∈ graph.components)
    {node : α}
    (member : node ∈ component) :
    {other | other ∈ component} = classOf (Arrow graph.next) node :=
  Set.ext fun other => (isComponent_of_mem_components sound listed).mem_iff node member other

/-- The components that pass the test are the classes of nodes that hold a cycle. -/
theorem exists_cyclic_component_iff
    (sound : graph.Sound)
    (distinct : graph.nodes.Nodup)
    {members : Set α} :
    (∃ component ∈ graph.components,
      graph.isCyclic component = true ∧ {node | node ∈ component} = members) ↔
      (∃ node ∈ graph.nodes, members = classOf (Arrow graph.next) node) ∧
        (members.Nontrivial ∨ ∃ only, members = {only} ∧ Arrow graph.next only only) := by
  constructor
  · intro found
    obtain ⟨component, listed, isCyclic, rfl⟩ := found
    have isComponent := isComponent_of_mem_components sound listed
    obtain ⟨node, member⟩ := List.exists_mem_of_ne_nil component isComponent.ne_nil
    refine ⟨⟨node, isComponent.sublist.subset member, setOf_component_eq sound listed member⟩, ?_⟩
    exact (isCyclic_iff (isComponent.sublist.nodup distinct)).mp isCyclic
  · intro isClass
    obtain ⟨⟨node, inGraph, rfl⟩, cyclic⟩ := isClass
    obtain ⟨component, listed, member⟩ := exists_component sound inGraph
    have nodup := (isComponent_of_mem_components sound listed).sublist.nodup distinct
    have same := setOf_component_eq sound listed member
    refine ⟨component, listed, (isCyclic_iff nodup).mpr ?_, same⟩
    rw [same]
    exact cyclic

end CargoDeps.Digraph
