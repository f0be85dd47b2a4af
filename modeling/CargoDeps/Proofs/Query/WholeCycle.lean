import CargoDeps.Proofs.Graph.Restriction
import CargoDeps.Proofs.Query.Cycle
import CargoDeps.Proofs.Query.Reach
import Mathlib.Data.List.Sort
import Mathlib.Order.Bounds.Basic

namespace CargoDeps

/-!
# Cycles of the part that a query reached

Packages that lead to each other are reached together, in either direction.  So the part of a graph
that a query reached has each cycle as a whole or nothing of it, and its own cycles are those of the
graph that were reached.  Only the walks through them may differ.
-/

namespace Cycle

/-- The members of a cycle and its links, without the walk, which is one of several. -/
def parts (cycle : Cycle) : List PackageId × List Edge :=
  (cycle.members, cycle.links)

/-- The least member of one cycle is below the least member of another. -/
def PartsBelow (first second : List PackageId × List Edge) : Prop :=
  ∃ low high,
    IsLeast {id | id ∈ first.1} low ∧
      IsLeast {id | id ∈ second.1} high ∧
        low < high

instance : Std.Asymm PartsBelow where
  asymm first second below above := by
    obtain ⟨low, high, isLow, isHigh, before⟩ := below
    obtain ⟨otherHigh, otherLow, isOtherHigh, isOtherLow, behind⟩ := above
    rw [isOtherHigh.unique isHigh, isOtherLow.unique isLow] at behind
    exact lt_asymm before behind

instance : Std.Asymm fun first second : Edge => first.index < second.index where
  asymm _ _ := Nat.lt_asymm

/-- Cycles that present one class have the same parts if both graphs have the same chosen edges
inside it. -/
theorem Presents.parts_eq
    {graph other : PackageGraph}
    {chosen otherChosen : EdgePredicate}
    {members : Set PackageId}
    {first second : Cycle}
    (firstPresents : first.Presents graph chosen members)
    (secondPresents : second.Presents other otherChosen members)
    (same : ∀ edge : Edge,
      edge.source ∈ members →
      edge.target ∈ members →
      (edge ∈ graph.edges ∧ chosen edge = true ↔
        edge ∈ other.edges ∧ otherChosen edge = true)) :
    first.parts = second.parts := by
  have sameMembers : first.members = second.members := by
    apply PackageId.sorted_distinct_eq
    intro id
    rw [firstPresents.mem_walk_iff, secondPresents.mem_walk_iff]
  -- Links stand in input order, so that lists of the same links are the same.
  have sameLinks : first.links = second.links := by
    refine firstPresents.ascending_links.eq_of_mem_iff secondPresents.ascending_links ?_
    intro edge
    rw [firstPresents.mem_links_iff, secondPresents.mem_links_iff]
    have sameEdge := same edge
    tauto
  rw [parts, parts, sameMembers, sameLinks]

end Cycle

namespace PackageGraph

variable {graph : PackageGraph} {direction : Direction} {chosen : EdgePredicate}
  {roots ids : List PackageId} {members : Set PackageId}

/-- Some packages make up whole classes: what one of them leads to and is led to by is one of
them. -/
def IsWhole
    (graph : PackageGraph)
    (chosen : EdgePredicate)
    (ids : List PackageId) : Prop :=
  ∀ id ∈ ids, ∀ other,
    graph.Leads chosen id other →
    graph.Leads chosen other id →
    other ∈ ids

/-- In either direction, packages that lead to each other are reached together. -/
theorem isWhole_ids_reachFrom
    (known : roots ⊆ graph.ids) :
    graph.IsWhole chosen (graph.reachFrom roots direction chosen).ids := by
  intro id reached other leads back
  obtain ⟨root, isRoot, path⟩ := (mem_ids_reachFrom known).mp reached
  have onwards : graph.LeadsTowards direction chosen id other := by
    cases direction with
    | forward =>
        exact leads
    | reverse =>
        exact back
  exact (mem_ids_reachFrom known).mpr ⟨root, isRoot, path.trans onwards⟩

/-! ### Paths of a part -/

theorem links_restrict_iff
    {source target : PackageId} :
    (graph.restrict ids chosen).Links .everything source target ↔
      source ∈ ids ∧ target ∈ ids ∧ graph.Links chosen source target := by
  simp only [Links, mem_edges_restrict, EdgePredicate.everything]
  constructor
  · rintro ⟨edge, ⟨member, sourceKept, targetKept, accepted⟩, rfl, rfl, -⟩
    exact ⟨sourceKept, targetKept, edge, member, rfl, rfl, accepted⟩
  · rintro ⟨sourceKept, targetKept, edge, member, rfl, rfl, accepted⟩
    exact ⟨edge, ⟨member, sourceKept, targetKept, accepted⟩, rfl, rfl, trivial⟩

/-- A path runs inside a part of the graph if every package between its ends does. -/
theorem leads_restrict
    {source target : PackageId}
    (path : graph.Leads chosen source target)
    (kept : ∀ between,
      graph.Leads chosen source between →
      graph.Leads chosen between target →
      between ∈ ids) :
    (graph.restrict ids chosen).Leads .everything source target := by
  induction path with
  | refl =>
      exact .refl
  | @tail middle last earlier links inductionHypothesis =>
      have keptBefore : ∀ between,
          graph.Leads chosen source between →
          graph.Leads chosen between middle →
          between ∈ ids := by
        intro between fromSource toMiddle
        exact kept between fromSource (toMiddle.tail links)
      refine (inductionHypothesis keptBefore).tail (links_restrict_iff.mpr ⟨?_, ?_, links⟩)
      · exact keptBefore middle earlier .refl
      · exact kept last (earlier.tail links) .refl

/-- A path inside a part of the graph is a path. -/
theorem leads_of_restrict
    {source target : PackageId}
    (path : (graph.restrict ids chosen).Leads .everything source target) :
    graph.Leads chosen source target :=
  Relation.ReflTransGen.mono (fun _ _ links => (links_restrict_iff.mp links).2.2) _ _ path

namespace IsWhole

/-- Inside whole classes, the same packages lead to each other as in the graph. -/
theorem mutual_restrict_iff
    (isWhole : graph.IsWhole chosen ids)
    {id other : PackageId}
    (kept : id ∈ ids) :
    (graph.restrict ids chosen).Leads .everything id other ∧
        (graph.restrict ids chosen).Leads .everything other id ↔
      graph.Leads chosen id other ∧ graph.Leads chosen other id := by
  constructor
  · intro inPart
    exact ⟨leads_of_restrict inPart.1, leads_of_restrict inPart.2⟩
  · intro inGraph
    obtain ⟨leads, back⟩ := inGraph
    -- What lies on one of the two paths comes back to `id` by the rest of it and the other path.
    constructor
    · apply leads_restrict leads
      intro between fromId toOther
      exact isWhole id kept between fromId (toOther.trans back)
    · apply leads_restrict back
      intro between fromOther toId
      exact isWhole id kept between (leads.trans fromOther) toId

/-! ### Classes of a part -/

/-- A class that has a package among whole classes has all of its packages there. -/
theorem subset_of_isClass
    (isWhole : graph.IsWhole chosen ids)
    (isClass : graph.IsClass chosen members)
    {id : PackageId}
    (member : id ∈ members)
    (kept : id ∈ ids) :
    ∀ other ∈ members, other ∈ ids := by
  intro other otherMember
  exact isWhole id kept other (isClass.leads member otherMember) (isClass.leads otherMember member)

theorem isClass_restrict_iff
    (isWhole : graph.IsWhole chosen ids) :
    (graph.restrict ids chosen).IsClass .everything members ↔
      graph.IsClass chosen members ∧ ∃ id ∈ members, id ∈ ids := by
  constructor
  · intro isClass
    obtain ⟨id, inPart, mem_iff⟩ := isClass
    obtain ⟨inGraph, kept⟩ := mem_ids_restrict.mp inPart
    refine ⟨⟨id, inGraph, ?_⟩, id, (mem_iff id).mpr ⟨.refl, .refl⟩, kept⟩
    intro other
    rw [mem_iff, isWhole.mutual_restrict_iff kept]
  · intro inGraph
    obtain ⟨isClass, id, member, kept⟩ := inGraph
    refine ⟨id, mem_ids_restrict.mpr ⟨isClass.subset_ids id member, kept⟩, ?_⟩
    intro other
    rw [isClass.mem_iff member, isWhole.mutual_restrict_iff kept]

/-- The cyclic classes of the part are those of the graph that have a package in it. -/
theorem isCyclicClass_restrict_iff
    (isWhole : graph.IsWhole chosen ids) :
    (graph.restrict ids chosen).IsCyclicClass .everything members ↔
      graph.IsCyclicClass chosen members ∧ ∃ id ∈ members, id ∈ ids := by
  rw [IsCyclicClass, IsCyclicClass, isWhole.isClass_restrict_iff]
  constructor
  · intro inPart
    obtain ⟨⟨isClass, reached⟩, cyclic⟩ := inPart
    refine ⟨⟨isClass, cyclic.imp_right ?_⟩, reached⟩
    rintro ⟨id, only, links⟩
    exact ⟨id, only, (links_restrict_iff.mp links).2.2⟩
  · intro inGraph
    obtain ⟨⟨isClass, cyclic⟩, id, member, kept⟩ := inGraph
    refine ⟨⟨isClass, id, member, kept⟩, cyclic.imp_right ?_⟩
    rintro ⟨only, rfl, links⟩
    obtain rfl : id = only := member
    exact ⟨id, rfl, links_restrict_iff.mpr ⟨kept, kept, links⟩⟩

/-! ### Cycles of a part -/

/-- The cycles of the part and the graph that present one class have the same parts. -/
theorem parts_eq
    (isWhole : graph.IsWhole chosen ids)
    (isClass : graph.IsClass chosen members)
    {id : PackageId}
    (member : id ∈ members)
    (kept : id ∈ ids)
    {inPart inGraph : Cycle}
    (presentsPart : inPart.Presents (graph.restrict ids chosen) .everything members)
    (presentsGraph : inGraph.Presents graph chosen members) :
    inPart.parts = inGraph.parts := by
  have keptAll := isWhole.subset_of_isClass isClass member kept
  apply presentsPart.parts_eq presentsGraph
  intro edge sourceMember targetMember
  simp only [mem_edges_restrict, keptAll _ sourceMember, keptAll _ targetMember, true_and,
    EdgePredicate.everything, and_true]

/-- The cycles of whole classes are those of the graph that have a member there. -/
theorem parts_findCycles
    (isWhole : graph.IsWhole chosen ids) :
    ((graph.restrict ids chosen).findCycles .everything).map Cycle.parts =
      ((graph.findCycles chosen).filter fun cycle => cycle.members.any (· ∈ ids)).map
        Cycle.parts := by
  have partAscending :
      (((graph.restrict ids chosen).findCycles .everything).map Cycle.parts).Pairwise
        Cycle.PartsBelow :=
    List.pairwise_map.mpr ascending_findCycles
  have graphAscending :
      (((graph.findCycles chosen).filter fun cycle => cycle.members.any (· ∈ ids)).map
        Cycle.parts).Pairwise Cycle.PartsBelow :=
    List.pairwise_map.mpr (ascending_findCycles.filter _)
  -- Both lists are in the order of least members, so that it remains to compare what they hold.
  refine partAscending.eq_of_mem_iff graphAscending fun parts => ?_
  simp only [List.mem_map, List.mem_filter, List.any_eq_true, decide_eq_true_eq]
  constructor
  · intro inPart
    obtain ⟨cycle, found, rfl⟩ := inPart
    obtain ⟨members, isCyclicClass, presents⟩ := presents_of_mem_findCycles found
    obtain ⟨inGraph, id, member, kept⟩ := isWhole.isCyclicClass_restrict_iff.mp isCyclicClass
    obtain ⟨whole, wholeFound, wholePresents⟩ := exists_mem_findCycles inGraph
    exact ⟨whole, ⟨wholeFound, id, wholePresents.mem_members_iff.mpr member, kept⟩,
      (isWhole.parts_eq inGraph.1 member kept presents wholePresents).symm⟩
  · intro inGraph
    obtain ⟨cycle, ⟨found, id, isMember, kept⟩, rfl⟩ := inGraph
    obtain ⟨members, isCyclicClass, presents⟩ := presents_of_mem_findCycles found
    have member : id ∈ members := presents.mem_members_iff.mp isMember
    obtain ⟨part, partFound, partPresents⟩ :=
      exists_mem_findCycles
        (isWhole.isCyclicClass_restrict_iff.mpr ⟨isCyclicClass, id, member, kept⟩)
    exact ⟨part, partFound, isWhole.parts_eq isCyclicClass.1 member kept partPresents presents⟩

end IsWhole

/--
A query never cuts a cycle: by their members and links, and in the same order, the cycles of what it
reached are exactly those cycles of the graph that have a member that was reached.
-/
theorem findCycles_subgraph
    (graph : PackageGraph)
    (roots : List PackageId)
    (direction : Direction)
    (chosen : EdgePredicate)
    (known : roots ⊆ graph.ids) :
    ∃ result, graph.query roots direction chosen = .ok result ∧
      (result.subgraph.findCycles .everything).map Cycle.parts =
        ((graph.findCycles chosen).filter fun cycle =>
          cycle.members.any (· ∈ result.ids)).map Cycle.parts :=
  ⟨_, query_eq_ok_iff.mpr ⟨known, rfl⟩, (isWhole_ids_reachFrom known).parts_findCycles⟩

namespace Spokes

/-- The id of a package that is in a cycle with each of two others. -/
def hub : PackageId :=
  ⟨"hub 1.0.0", by decide⟩

/-- The id of one of the two others. -/
def left : PackageId :=
  ⟨"left 1.0.0", by decide⟩

/-- The id of the other one, to which the first edge from the hub is optional. -/
def right : PackageId :=
  ⟨"right 1.0.0", by decide⟩

/-- The id of a package that depends on itself and on the hub. -/
def spare : PackageId :=
  ⟨"spare 1.0.0", by decide⟩

/-- The graph of the four. -/
def sample : PackageGraph :=
  .ofParts [.sample spare [], .sample left [], .sample hub [], .sample right []]
    [.sample 0 hub right "right" true, .sample 1 spare spare "spare" false,
      .sample 2 hub left "left" false, .sample 3 left hub "hub" false,
      .sample 4 hub right "right" false, .sample 5 right hub "hub" false,
      .sample 6 spare hub "hub" false]
    ⟨none, []⟩ (by decide) (by decide) (by decide) (by decide)

end Spokes

/-- From `left`, edges that are not optional reach the cycle through the hub and not the other one.
Its walk is different where the optional edge is no longer there. -/
theorem findCycles_subgraph_spokes :
    [Spokes.left] ⊆ Spokes.sample.ids ∧
      ∃ result, Spokes.sample.query [Spokes.left] .forward Paired.firm = .ok result ∧
        result.ids = [Spokes.left, Spokes.hub, Spokes.right] ∧
        (Spokes.sample.findCycles Paired.firm).map Cycle.walk =
          [[Spokes.hub, Spokes.right, Spokes.hub, Spokes.left], [Spokes.spare]] ∧
        (result.subgraph.findCycles .everything).map Cycle.walk =
          [[Spokes.hub, Spokes.left, Spokes.hub, Spokes.right]] ∧
        (result.subgraph.findCycles .everything).map Cycle.parts =
          ((Spokes.sample.findCycles Paired.firm).filter fun cycle =>
            cycle.members.any (· ∈ result.ids)).map Cycle.parts := by
  have known : [Spokes.left] ⊆ Spokes.sample.ids := by
    decide
  obtain ⟨result, found, sameParts⟩ :=
    findCycles_subgraph Spokes.sample [Spokes.left] .forward Paired.firm known
  obtain ⟨-, rfl⟩ := query_eq_ok_iff.mp found
  exact ⟨known, _, found, by decide +kernel, by decide +kernel, by decide +kernel, sameParts⟩

end PackageGraph

end CargoDeps
