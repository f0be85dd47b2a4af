import CargoDeps.Proofs.Digraph.ClosedWalk
import CargoDeps.Proofs.Digraph.Component
import CargoDeps.Proofs.Graph.Path
import CargoDeps.Proofs.Graph.Sample
import CargoDeps.Proofs.Order
import CargoDeps.Query
import Mathlib.Data.List.Rotate
import Mathlib.Data.Set.Subsingleton

namespace CargoDeps

/-!
# What cycles are found

The cycles of a graph are its cyclic classes: the classes of packages that lead to each other along
chosen edges and that hold a closed path.  Each comes with a closed walk through the class and with
the chosen edges inside it.
-/

open Relation (ReflTransGen TransGen)

namespace PackageGraph

/-- A class of packages that lead to each other along chosen edges. -/
def IsClass
    (graph : PackageGraph)
    (chosen : EdgePredicate)
    (members : Set PackageId) : Prop :=
  ∃ id ∈ graph.ids, ∀ other,
    other ∈ members ↔ graph.Leads chosen id other ∧ graph.Leads chosen other id

/-- A class with a closed path: it has several packages, or its only package links to itself. -/
def IsCyclicClass
    (graph : PackageGraph)
    (chosen : EdgePredicate)
    (members : Set PackageId) : Prop :=
  graph.IsClass chosen members ∧
    (members.Nontrivial ∨ ∃ id, members = {id} ∧ graph.Links chosen id id)

variable {graph : PackageGraph} {chosen : EdgePredicate} {members : Set PackageId}

namespace IsClass

theorem leads
    (isClass : graph.IsClass chosen members)
    {first second : PackageId}
    (firstMember : first ∈ members)
    (secondMember : second ∈ members) :
    graph.Leads chosen first second := by
  obtain ⟨id, -, mem_iff⟩ := isClass
  exact ((mem_iff first).mp firstMember).2.trans ((mem_iff second).mp secondMember).1

theorem nonempty
    (isClass : graph.IsClass chosen members) :
    ∃ id, id ∈ members := by
  obtain ⟨id, -, mem_iff⟩ := isClass
  exact ⟨id, (mem_iff id).mpr ⟨.refl, .refl⟩⟩

/-- What lies on a path between members is a member. -/
theorem mem_of_between
    (isClass : graph.IsClass chosen members)
    {first second between : PackageId}
    (firstMember : first ∈ members)
    (secondMember : second ∈ members)
    (fromFirst : graph.Leads chosen first between)
    (toSecond : graph.Leads chosen between second) :
    between ∈ members := by
  obtain ⟨id, -, mem_iff⟩ := isClass
  exact (mem_iff between).mpr
    ⟨((mem_iff first).mp firstMember).1.trans fromFirst,
      toSecond.trans ((mem_iff second).mp secondMember).2⟩

/-- A class consists of what any of its members leads to and is led to by. -/
theorem mem_iff
    (isClass : graph.IsClass chosen members)
    {id other : PackageId}
    (member : id ∈ members) :
    other ∈ members ↔ graph.Leads chosen id other ∧ graph.Leads chosen other id := by
  constructor
  · intro otherMember
    exact ⟨isClass.leads member otherMember, isClass.leads otherMember member⟩
  · intro both
    exact isClass.mem_of_between member member both.1 both.2

theorem subset_ids
    (isClass : graph.IsClass chosen members) :
    ∀ id ∈ members, id ∈ graph.ids := by
  obtain ⟨id, member, mem_iff⟩ := isClass
  intro other otherMember
  rcases ((mem_iff other).mp otherMember).1.cases_tail with rfl | ⟨_, _, links⟩
  · exact member
  · exact links.target_mem

/-- Two classes that share a package are the same. -/
theorem eq_of_mem
    {others : Set PackageId}
    (isClass : graph.IsClass chosen members)
    (otherClass : graph.IsClass chosen others)
    {id : PackageId}
    (member : id ∈ members)
    (otherMember : id ∈ others) :
    members = others := by
  ext other
  rw [isClass.mem_iff member, otherClass.mem_iff otherMember]

end IsClass

/-- Every member of a cyclic class links to a member. -/
theorem IsCyclicClass.exists_links
    (isCyclicClass : graph.IsCyclicClass chosen members)
    {id : PackageId}
    (member : id ∈ members) :
    ∃ next ∈ members, graph.Links chosen id next := by
  obtain ⟨isClass, several | ⟨only, rfl, links⟩⟩ := isCyclicClass
  · obtain ⟨other, otherMember, different⟩ := several.exists_ne id
    rcases (isClass.leads member otherMember).cases_head with same | ⟨next, links, rest⟩
    · exact absurd same.symm different
    · exact ⟨next, isClass.mem_of_between member otherMember (.single links) rest, links⟩
  · obtain rfl : id = only := member
    exact ⟨id, rfl, links⟩

/-- The packages on closed paths are those of the cyclic classes. -/
theorem exists_isCyclicClass_iff
    {id : PackageId} :
    (∃ members, graph.IsCyclicClass chosen members ∧ id ∈ members) ↔
      TransGen (graph.Links chosen) id id := by
  rw [← Digraph.cyclic_classOf_iff]
  constructor
  · intro found
    obtain ⟨members, ⟨isClass, cyclic⟩, member⟩ := found
    have same : members = Digraph.classOf (graph.Links chosen) id :=
      Set.ext fun _ => isClass.mem_iff member
    exact same ▸ cyclic
  · intro cyclic
    obtain ⟨next, links, -⟩ := TransGen.head'_iff.mp (Digraph.cyclic_classOf_iff.mp cyclic)
    exact ⟨_, ⟨⟨id, links.source_mem, fun _ => Iff.rfl⟩, cyclic⟩, Digraph.mem_classOf_self⟩

end PackageGraph

namespace Cycle

variable {graph : PackageGraph} {chosen : EdgePredicate} {members : Set PackageId}

/-! ### The cycle of a class -/

theorem mem_members
    {cycle : Cycle}
    {id : PackageId} :
    id ∈ cycle.members ↔ id ∈ cycle.walk := by
  simp [Cycle.members]

/-- The steps leave the ids of the walk one after the other. -/
theorem map_fst_steps
    (cycle : Cycle) :
    cycle.steps.map Prod.fst = cycle.walk := by
  apply List.map_fst_zip
  simp only [List.length_append, List.length_drop, List.length_take]
  omega

/-- The steps lead to the ids of the walk from the second one on, and then to the first one. -/
theorem map_snd_steps
    (cycle : Cycle) :
    cycle.steps.map Prod.snd = cycle.walk.rotate 1 := by
  have lengths :
      (cycle.walk.drop 1 ++ cycle.walk.take 1).length ≤ cycle.walk.length := by
    simp only [List.length_append, List.length_drop, List.length_take]
    omega
  rw [steps, List.map_snd_zip lengths]
  cases cycle.walk with
  | nil =>
      rfl
  | cons start rest =>
      simp

/-- Along a chain each item is related to the next. -/
theorem related_of_isChain
    {relation : PackageId → PackageId → Prop}
    {start last : PackageId}
    {rest : List PackageId}
    (chain : (start :: rest ++ [last]).IsChain relation) :
    ∀ step ∈ (start :: rest).zip (rest ++ [last]), relation step.1 step.2 := by
  induction rest generalizing start with
  | nil =>
      simpa using chain
  | cons next rest inductionHypothesis =>
      obtain ⟨related, restChain⟩ := List.isChain_cons_cons.mp chain
      intro step member
      rcases List.mem_cons.mp member with rfl | later
      · exact related
      · exact inductionHypothesis restChain step later

/-- What the cycle of a cyclic class has to be. -/
structure Presents
    (graph : PackageGraph)
    (chosen : EdgePredicate)
    (members : Set PackageId)
    (cycle : Cycle) : Prop where
  start :
    ∃ start, cycle.walk.head? = some start ∧ IsLeast members start
  mem_walk_iff :
    ∀ id, id ∈ cycle.walk ↔ id ∈ members
  linked :
    ∀ step ∈ cycle.steps, graph.Links chosen step.1 step.2
  nodup :
    (∀ id ∈ members, ∃! next, next ∈ members ∧ graph.Links chosen id next) →
    cycle.walk.Nodup
  mem_links_iff :
    ∀ edge,
      edge ∈ cycle.links ↔
        edge ∈ graph.edges ∧
          chosen edge = true ∧
            edge.source ∈ members ∧
              edge.target ∈ members
  ascending_links :
    cycle.links.Pairwise fun first second => first.index < second.index

theorem Presents.mem_members_iff
    {cycle : Cycle}
    (presents : cycle.Presents graph chosen members)
    {id : PackageId} :
    id ∈ cycle.members ↔ id ∈ members :=
  mem_members.trans (presents.mem_walk_iff id)

theorem Presents.members_eq
    {cycle : Cycle}
    (presents : cycle.Presents graph chosen members) :
    {id | id ∈ cycle.members} = members :=
  Set.ext fun _ => presents.mem_members_iff

section Component

variable {component : List PackageId}

theorem arrow_within
    {source target : PackageId} :
    Digraph.Arrow ((graph.view chosen).within component).next source target ↔
      graph.Links chosen source target ∧ target ∈ component := by
  simp only [Digraph.Arrow, Digraph.within, List.mem_filter, PackageGraph.mem_next_view,
    decide_eq_true_eq]

theorem mem_nodes_within
    (isClass : graph.IsClass chosen {id | id ∈ component})
    {id : PackageId} :
    id ∈ ((graph.view chosen).within component).nodes ↔ id ∈ component := by
  simp only [Digraph.within, PackageGraph.view, List.mem_filter, decide_eq_true_eq,
    and_iff_right_iff_imp]
  exact isClass.subset_ids id

/-- The members of a class reach each other without leaving it. -/
theorem connected_within
    (isClass : graph.IsClass chosen {id | id ∈ component}) :
    ((graph.view chosen).within component).Connected := by
  intro first firstNode second secondNode
  have firstMember := (mem_nodes_within isClass).mp firstNode
  have secondMember := (mem_nodes_within isClass).mp secondNode
  have reaches_iff :
      ∀ {source target},
        Digraph.Reaches (graph.view chosen).next source target ↔
          graph.Leads chosen source target := by
    intro source target
    rw [Digraph.Reaches, PackageGraph.arrow_view]
  refine (reaches_iff.mpr (isClass.leads firstMember secondMember)).within ?_
  intro between fromFirst toSecond
  exact isClass.mem_of_between firstMember secondMember
    (reaches_iff.mp fromFirst) (reaches_iff.mp toSecond)

/-- A closed walk through a class makes a cycle that presents it. -/
theorem presents_of_isClosedWalk
    (isClass : graph.IsClass chosen {id | id ∈ component})
    {start : PackageId}
    {walk : List PackageId}
    (isLeast : IsLeast {id | id ∈ component} start)
    (isClosedWalk : ((graph.view chosen).within component).IsClosedWalk start walk) :
    Presents graph chosen {id | id ∈ component}
      ⟨walk, graph.edges.filter fun edge =>
        edge.source ∈ component && edge.target ∈ component && chosen edge⟩ where
  start := ⟨start, isClosedWalk.head, isLeast⟩
  mem_walk_iff id := (isClosedWalk.mem_iff id).trans (mem_nodes_within isClass)
  linked := by
    obtain ⟨rest, rfl⟩ := List.head?_eq_some_iff.mp isClosedWalk.head
    intro step member
    have arrow := related_of_isChain isClosedWalk.chain step (by simpa [steps] using member)
    exact (arrow_within.mp arrow).1
  nodup := by
    intro unique
    apply isClosedWalk.nodup
    intro node inGraph first second toFirst toSecond
    obtain ⟨firstLinks, firstMember⟩ := arrow_within.mp toFirst
    obtain ⟨secondLinks, secondMember⟩ := arrow_within.mp toSecond
    exact (unique node ((mem_nodes_within isClass).mp inGraph)).unique
      ⟨firstMember, firstLinks⟩ ⟨secondMember, secondLinks⟩
  mem_links_iff := by
    intro edge
    simp only [List.mem_filter, Bool.and_eq_true, decide_eq_true_eq, Set.mem_ofPred_eq]
    tauto
  ascending_links := graph.ascending_edges.filter _

/-- Every cyclic class has its cycle: all paths that the walk is made of are found. -/
theorem exists_ofComponent?
    (isCyclicClass : graph.IsCyclicClass chosen {id | id ∈ component}) :
    ∃ cycle,
      ofComponent? graph chosen component = some cycle ∧
        cycle.Presents graph chosen {id | id ∈ component} := by
  have isClass := isCyclicClass.1
  obtain ⟨id, member⟩ := isClass.nonempty
  have notEmpty : Sequence.sorted (fun first second => first < second) component ≠ [] :=
    List.ne_nil_of_mem (Sequence.mem_sorted.mpr member)
  obtain ⟨start, isHead⟩ := Option.isSome_iff_exists.mp (List.isSome_head?.mpr notEmpty)
  have isLeast : IsLeast {id | id ∈ component} start :=
    PackageId.isLeast_of_head?_sorted isHead
  obtain ⟨next, nextMember, links⟩ := isCyclicClass.exists_links isLeast.1
  obtain ⟨walk, found, isClosedWalk⟩ :=
    Digraph.exists_closedWalk? (PackageGraph.sound_view.within component)
      (connected_within isClass)
      ((mem_nodes_within isClass).mpr isLeast.1)
      ⟨next, arrow_within.mpr ⟨links, nextMember⟩⟩
  refine ⟨_, ?_, presents_of_isClosedWalk isClass isLeast isClosedWalk⟩
  simp [ofComponent?, isHead, found]

theorem presents_of_ofComponent?
    (isCyclicClass : graph.IsCyclicClass chosen {id | id ∈ component})
    {cycle : Cycle}
    (made : ofComponent? graph chosen component = some cycle) :
    cycle.Presents graph chosen {id | id ∈ component} := by
  obtain ⟨same, madeSame, presents⟩ := exists_ofComponent? isCyclicClass
  obtain rfl : same = cycle := Option.some.inj (madeSame.symm.trans made)
  exact presents

end Component

/-! ### Order of cycles -/

theorem before_eq
    {first second : Cycle}
    {firstStart secondStart : PackageId}
    (firstHead : first.walk.head? = some firstStart)
    (secondHead : second.walk.head? = some secondStart) :
    first.before second = decide (firstStart < secondStart) := by
  obtain ⟨firstRest, firstShape⟩ := List.head?_eq_some_iff.mp firstHead
  obtain ⟨secondRest, secondShape⟩ := List.head?_eq_some_iff.mp secondHead
  simp only [before, firstShape, secondShape]

/-- Cycles are in order by the ids that their walks start at. -/
theorem orders_before
    {cycles : List Cycle}
    (starts : ∀ cycle ∈ cycles, ∃ start, cycle.walk.head? = some start) :
    Sequence.Orders before cycles where
  asymm first firstMember second secondMember := by
    obtain ⟨firstStart, firstHead⟩ := starts first firstMember
    obtain ⟨secondStart, secondHead⟩ := starts second secondMember
    rw [before_eq firstHead secondHead, before_eq secondHead firstHead]
    exact (PackageId.orders [firstStart, secondStart]).asymm
      firstStart (by simp) secondStart (by simp)
  compose first firstMember second secondMember third thirdMember := by
    obtain ⟨firstStart, firstHead⟩ := starts first firstMember
    obtain ⟨secondStart, secondHead⟩ := starts second secondMember
    obtain ⟨thirdStart, thirdHead⟩ := starts third thirdMember
    rw [before_eq secondHead firstHead, before_eq thirdHead secondHead,
      before_eq thirdHead firstHead]
    exact (PackageId.orders [firstStart, secondStart, thirdStart]).compose
      firstStart (by simp) secondStart (by simp) thirdStart (by simp)

end Cycle

namespace PackageGraph

variable {graph : PackageGraph} {chosen : EdgePredicate} {members : Set PackageId}

/-! ### The components of the view -/

theorem isClass_of_mem_components
    {component : List PackageId}
    (member : component ∈ (graph.view chosen).components) :
    graph.IsClass chosen {id | id ∈ component} := by
  have isComponent := Digraph.isComponent_of_mem_components sound_view member
  obtain ⟨id, idMember⟩ := List.exists_mem_of_ne_nil component isComponent.ne_nil
  refine ⟨id, isComponent.sublist.subset idMember, ?_⟩
  intro other
  exact (isComponent.mem_iff id idMember other).trans mutual_view

theorem exists_component_of_isClass
    (isClass : graph.IsClass chosen members) :
    ∃ component ∈ (graph.view chosen).components, {id | id ∈ component} = members := by
  obtain ⟨id, inMembers⟩ := isClass.nonempty
  obtain ⟨component, listed, inComponent⟩ :=
    Digraph.exists_component sound_view (isClass.subset_ids id inMembers)
  exact ⟨component, listed,
    (isClass_of_mem_components listed).eq_of_mem isClass inComponent inMembers⟩

/-- The test for a cyclic component tells the cyclic classes. -/
theorem isCyclic_view_iff
    {component : List PackageId}
    (member : component ∈ (graph.view chosen).components) :
    (graph.view chosen).isCyclic component = true ↔
      graph.IsCyclicClass chosen {id | id ∈ component} := by
  have nodup : component.Nodup :=
    (Digraph.isComponent_of_mem_components sound_view member).sublist.nodup graph.distinct_ids
  rw [Digraph.isCyclic_iff nodup, arrow_view, IsCyclicClass,
    and_iff_right (isClass_of_mem_components member)]

/-! ### The cycles found -/

theorem mem_findCycles
    {cycle : Cycle} :
    cycle ∈ graph.findCycles chosen ↔
      ∃ component ∈ (graph.view chosen).components,
        (graph.view chosen).isCyclic component = true ∧
          Cycle.ofComponent? graph chosen component = some cycle := by
  simp [findCycles, and_assoc]

/-- Every cycle found presents a cyclic class. -/
theorem presents_of_mem_findCycles
    {cycle : Cycle}
    (found : cycle ∈ graph.findCycles chosen) :
    ∃ members,
      graph.IsCyclicClass chosen members ∧ cycle.Presents graph chosen members := by
  obtain ⟨component, listed, isCyclic, made⟩ := mem_findCycles.mp found
  have isCyclicClass := (isCyclic_view_iff listed).mp isCyclic
  exact ⟨_, isCyclicClass, Cycle.presents_of_ofComponent? isCyclicClass made⟩

/-- Every cyclic class is presented by a cycle found. -/
theorem exists_mem_findCycles
    (isCyclicClass : graph.IsCyclicClass chosen members) :
    ∃ cycle ∈ graph.findCycles chosen, cycle.Presents graph chosen members := by
  obtain ⟨component, listed, rfl⟩ := exists_component_of_isClass isCyclicClass.1
  obtain ⟨cycle, made, presents⟩ := Cycle.exists_ofComponent? isCyclicClass
  have isCyclic := (isCyclic_view_iff listed).mpr isCyclicClass
  exact ⟨cycle, mem_findCycles.mpr ⟨component, listed, isCyclic, made⟩, presents⟩

/-- No package is a member of two cycles. -/
theorem disjoint_findCycles :
    (graph.findCycles chosen).Pairwise fun first second =>
      first.members.Disjoint second.members := by
  rw [findCycles, Sequence.sorted_eq_insertionSort,
    (List.perm_insertionSort _ _).pairwise_iff List.disjoint_symm]
  rw [List.pairwise_filterMap]
  refine ((Digraph.disjoint_components sound_view).filter _).imp_of_mem ?_
  intro firstPart secondPart firstListed secondListed disjoint first firstMade second secondMade
  have mem_of_mem :
      ∀ {component cycle},
        component ∈ (graph.view chosen).components.filter (graph.view chosen).isCyclic →
        Cycle.ofComponent? graph chosen component = some cycle →
        ∀ {id}, id ∈ cycle.members → id ∈ component := by
    intro component cycle kept made id member
    obtain ⟨listed, isCyclic⟩ := List.mem_filter.mp kept
    have isCyclicClass := (isCyclic_view_iff listed).mp isCyclic
    exact (Cycle.presents_of_ofComponent? isCyclicClass made).mem_members_iff.mp member
  intro id inFirst inSecond
  exact disjoint (mem_of_mem firstListed firstMade inFirst)
    (mem_of_mem secondListed secondMade inSecond)

/-- Cycles that share a member are the same. -/
theorem eq_of_mem_members
    {first second : Cycle}
    {id : PackageId}
    (firstFound : first ∈ graph.findCycles chosen)
    (secondFound : second ∈ graph.findCycles chosen)
    (inFirst : id ∈ first.members)
    (inSecond : id ∈ second.members) :
    first = second := by
  have symmetric : Std.Symm fun first second : Cycle => first.members.Disjoint second.members :=
    ⟨fun _ _ disjoint => List.disjoint_symm disjoint⟩
  by_contra different
  exact disjoint_findCycles.forall firstFound secondFound different inFirst inSecond

/-- Cycles come in the order of their least members. -/
theorem ascending_findCycles :
    (graph.findCycles chosen).Pairwise fun first second =>
      ∃ low high,
        IsLeast {id | id ∈ first.members} low ∧
          IsLeast {id | id ∈ second.members} high ∧
            low < high := by
  have least :
      ∀ cycle ∈ graph.findCycles chosen,
        ∃ start, cycle.walk.head? = some start ∧ IsLeast {id | id ∈ cycle.members} start := by
    intro cycle found
    obtain ⟨members, -, presents⟩ := presents_of_mem_findCycles found
    obtain ⟨start, isHead, isLeast⟩ := presents.start
    exact ⟨start, isHead, presents.members_eq ▸ isLeast⟩
  have ordered : Sequence.Ordered Cycle.before (graph.findCycles chosen) := by
    refine Sequence.ordered_sorted (Cycle.orders_before ?_)
    intro cycle found
    obtain ⟨start, isHead, -⟩ := least cycle (Sequence.mem_sorted.mpr found)
    exact ⟨start, isHead⟩
  refine (ordered.and disjoint_findCycles).imp_of_mem ?_
  rintro first second firstFound secondFound ⟨notBefore, disjoint⟩
  obtain ⟨low, firstHead, lowLeast⟩ := least first firstFound
  obtain ⟨high, secondHead, highLeast⟩ := least second secondFound
  rw [Cycle.before_eq secondHead firstHead] at notBefore
  have below : low ≤ high := not_lt.mp (of_decide_eq_false notBefore)
  have different : low ≠ high := by
    rintro rfl
    exact disjoint lowLeast.1 highLeast.1
  exact ⟨low, high, lowLeast, highLeast, lt_of_le_of_ne below different⟩

/-- The members of the cycles found are the cyclic classes. -/
theorem exists_members_eq_iff :
    (∃ cycle ∈ graph.findCycles chosen, {id | id ∈ cycle.members} = members) ↔
      graph.IsCyclicClass chosen members := by
  constructor
  · rintro ⟨cycle, found, rfl⟩
    obtain ⟨others, isCyclicClass, presents⟩ := presents_of_mem_findCycles found
    have sameMembers : {id | id ∈ cycle.members} = others := presents.members_eq
    exact sameMembers ▸ isCyclicClass
  · intro isCyclicClass
    obtain ⟨cycle, found, presents⟩ := exists_mem_findCycles isCyclicClass
    exact ⟨cycle, found, presents.members_eq⟩

/-- A package is a member of a cycle if and only if it lies on a closed path. -/
theorem exists_mem_members_iff
    {id : PackageId} :
    (∃ cycle ∈ graph.findCycles chosen, id ∈ cycle.members) ↔
      TransGen (graph.Links chosen) id id := by
  rw [← exists_isCyclicClass_iff]
  constructor
  · rintro ⟨cycle, found, member⟩
    exact ⟨_, exists_members_eq_iff.mp ⟨cycle, found, rfl⟩, member⟩
  · rintro ⟨members, isCyclicClass, member⟩
    obtain ⟨cycle, found, rfl⟩ := exists_members_eq_iff.mpr isCyclicClass
    exact ⟨cycle, found, member⟩

/--
The cycles found are exactly the cyclic classes.

None is missing, none is reported twice, and packages on no closed path are in none.  They come in
increasing order of their least members, and the links of each are the chosen edges between its
members, in input order.
-/
theorem findCycles_eq_cyclic_classes
    (graph : PackageGraph)
    (chosen : EdgePredicate) :
    (∀ members : Set PackageId,
      (∃ cycle ∈ graph.findCycles chosen, {id | id ∈ cycle.members} = members) ↔
        graph.IsCyclicClass chosen members) ∧
    (∀ id,
      (∃ cycle ∈ graph.findCycles chosen, id ∈ cycle.members) ↔
        TransGen (graph.Links chosen) id id) ∧
    ((graph.findCycles chosen).Pairwise fun first second =>
      first.members.Disjoint second.members) ∧
    ((graph.findCycles chosen).Pairwise fun first second =>
      ∃ low high,
        IsLeast {id | id ∈ first.members} low ∧
          IsLeast {id | id ∈ second.members} high ∧
            low < high) ∧
    (∀ cycle ∈ graph.findCycles chosen,
      (∀ edge,
        edge ∈ cycle.links ↔
          edge ∈ graph.edges ∧
            chosen edge = true ∧
              edge.source ∈ cycle.members ∧
                edge.target ∈ cycle.members) ∧
      cycle.links.Pairwise fun first second => first.index < second.index) := by
  refine ⟨fun members => exists_members_eq_iff, fun id => exists_mem_members_iff,
    disjoint_findCycles, ascending_findCycles, ?_⟩
  intro cycle found
  obtain ⟨members, -, presents⟩ := presents_of_mem_findCycles found
  refine ⟨?_, presents.ascending_links⟩
  intro edge
  rw [presents.mem_links_iff, ← presents.members_eq]
  exact Iff.rfl

/--
The walk of a cycle found is a closed walk through its class.

It starts at the least member and visits all members and nothing else.  Each of its steps, the one
back to the start included, follows a chosen edge; and it visits each member once where each links
to one member only.  Making the cycle of a cyclic class never fails.
-/
theorem isClosedWalk_of_mem_findCycles
    (graph : PackageGraph)
    (chosen : EdgePredicate) :
    (∀ component : List PackageId,
      graph.IsCyclicClass chosen {id | id ∈ component} →
      ∃ cycle, Cycle.ofComponent? graph chosen component = some cycle) ∧
    (∀ cycle ∈ graph.findCycles chosen,
      ∃ members : Set PackageId,
        graph.IsCyclicClass chosen members ∧
        (∃ start, cycle.walk.head? = some start ∧ IsLeast members start) ∧
        {id | id ∈ cycle.walk} = members ∧
        cycle.steps.map Prod.fst = cycle.walk ∧
        cycle.steps.map Prod.snd = cycle.walk.rotate 1 ∧
        (∀ step ∈ cycle.steps,
          step.1 ∈ members ∧ step.2 ∈ members ∧ graph.Links chosen step.1 step.2) ∧
        ((∀ id ∈ members, ∃! next, next ∈ members ∧ graph.Links chosen id next) →
          cycle.walk.Nodup)) := by
  constructor
  · intro component isCyclicClass
    obtain ⟨cycle, made, -⟩ := Cycle.exists_ofComponent? isCyclicClass
    exact ⟨cycle, made⟩
  · intro cycle found
    obtain ⟨members, isCyclicClass, presents⟩ := presents_of_mem_findCycles found
    refine ⟨members, isCyclicClass, presents.start, Set.ext presents.mem_walk_iff,
      cycle.map_fst_steps, cycle.map_snd_steps, ?_, presents.nodup⟩
    intro step member
    have leaves : step.1 ∈ cycle.walk := by
      rw [← cycle.map_fst_steps]
      exact List.mem_map_of_mem member
    have enters : step.2 ∈ cycle.walk := by
      rw [← List.mem_rotate, ← cycle.map_snd_steps]
      exact List.mem_map_of_mem member
    exact ⟨(presents.mem_walk_iff _).mp leaves, (presents.mem_walk_iff _).mp enters,
      presents.linked step member⟩

/-- A package that two others depend on and that depends on both. -/
def hub : PackageGraph :=
  let hub : PackageId := ⟨"hub", by decide⟩
  let left : PackageId := ⟨"left", by decide⟩
  let right : PackageId := ⟨"right", by decide⟩
  .ofParts [.sample left [], .sample hub [], .sample right []]
    [.sample 0 left hub "hub" false, .sample 1 hub left "left" false,
      .sample 2 right hub "hub" false, .sample 3 hub right "right" false]
    ⟨none, [left, right]⟩ (by decide) (by decide) (by decide) (by decide)

-- No closed walk passes each of the three packages once.
example :
    (hub.findCycles .everything).map (fun cycle => cycle.walk.map PackageId.text) =
      [["hub", "left", "hub", "right"]] := by
  decide +kernel

end PackageGraph

end CargoDeps
