import CargoDeps.Digraph.Component
import CargoDeps.Proofs.Digraph.PathSearch
import Mathlib.Data.Set.Finite.List
import Mathlib.Order.WellFounded

namespace CargoDeps.Digraph

/-!
# Layer by layer, a graph without cycles is listed completely

Each listed node stands behind its predecessors, and the nodes that wait are those of which only the
predecessors are listed.  When nothing waits any more, a node that is not listed has a predecessor
that is not listed either.  Without cycles this cannot go on forever, so no node is missing.
-/

variable {α : Type}

/-- No path of at least one arrow leads from a node back to it. -/
def Acyclic (graph : Digraph α) : Prop :=
  ∀ node ∈ graph.nodes, ¬Relation.TransGen (Arrow graph.next) node node

/-- What holds while nodes are listed and others wait. -/
structure Listing
    (graph : Digraph α)
    (listed waiting : List α) : Prop where
  finished : Finished graph.prev listed
  nodup : (listed ++ waiting).Nodup
  subset : listed ++ waiting ⊆ graph.nodes
  mem_iff :
    ∀ node ∈ graph.nodes,
      node ∈ listed ++ waiting ↔ graph.prev node ⊆ listed

variable {graph : Digraph α}

/-- Among some nodes of a graph without cycles is one that none of them leads to. -/
theorem Acyclic.exists_first
    (acyclic : graph.Acyclic)
    (missing : Set α)
    (nonempty : missing.Nonempty)
    (subset : ∀ node ∈ missing, node ∈ graph.nodes) :
    ∃ node ∈ missing, ∀ other ∈ missing, ¬Arrow graph.next other node := by
  let before : missing → missing → Prop :=
    fun first second => Relation.TransGen (Arrow graph.next) first second
  -- To lead to is a strict order on finitely many nodes, so it is well-founded.
  have finite : missing.Finite :=
    (List.finite_toSet graph.nodes).subset subset
  have : Finite missing := finite
  have : IsTrans missing before :=
    ⟨fun _ _ _ earlier later => earlier.trans later⟩
  have : Std.Irrefl before :=
    ⟨fun node => acyclic node (subset node node.2)⟩
  have wellFounded : WellFounded before :=
    Finite.wellFounded_of_trans_of_irrefl before
  obtain ⟨first, firstMember⟩ := nonempty
  obtain ⟨least, -, noneBefore⟩ :=
    wellFounded.has_min Set.univ ⟨⟨first, firstMember⟩, trivial⟩
  refine ⟨least, least.2, ?_⟩
  intro other otherMember arrow
  exact noneBefore ⟨other, otherMember⟩ trivial (.single arrow)

namespace Listing

variable {listed waiting : List α}

/-- At first nothing is listed, and the nodes without predecessors wait. -/
theorem start
    (nodup : graph.nodes.Nodup) :
    graph.Listing [] (graph.nodes.filter fun node => (graph.prev node).isEmpty) where
  finished := .nil
  nodup := nodup.filter _
  subset := List.filter_subset_self graph.nodes
  mem_iff := by
    intro node member
    simp [member]

/-- When nothing waits, everything is listed. -/
theorem perm
    (sound : graph.Sound)
    (nodup : graph.nodes.Nodup)
    (acyclic : graph.Acyclic)
    (listing : graph.Listing listed []) :
    listed.Perm graph.nodes := by
  have nothingMissing : graph.nodes ⊆ listed := by
    by_contra incomplete
    obtain ⟨lost, lostNode, notListed⟩ : ∃ node ∈ graph.nodes, node ∉ listed := by
      simpa [List.subset_def] using incomplete
    obtain ⟨node, ⟨member, missing⟩, none⟩ :=
      acyclic.exists_first {node | node ∈ graph.nodes ∧ node ∉ listed}
        ⟨lost, lostNode, notListed⟩ fun _ both => both.1
    apply missing
    have ready : graph.prev node ⊆ listed := by
      intro earlier arrow
      by_contra earlierMissing
      have earlierNode : earlier ∈ graph.nodes :=
        sound.prev_mem node member earlier arrow
      have forward : Arrow graph.next earlier node :=
        (sound.mem_prev_iff earlier earlierNode node member).mp arrow
      exact none earlier ⟨earlierNode, earlierMissing⟩ forward
    simpa using (listing.mem_iff node member).mpr ready
  apply (List.perm_ext_iff_of_nodup listing.finished.nodup nodup).mpr
  intro node
  exact ⟨fun inListed => listing.subset (by simpa using inListed),
    fun member => nothingMissing member⟩

/-- Everything that waits is ready. -/
theorem prev_subset
    {node : α}
    (listing : graph.Listing listed waiting)
    (waits : node ∈ waiting) :
    graph.prev node ⊆ listed := by
  have known : node ∈ listed ++ waiting :=
    List.mem_append_right listed waits
  exact (listing.mem_iff node (listing.subset known)).mp known

variable [DecidableEq α]

/-- One waiting node is listed.  The nodes that it was the last predecessor of wait from then on. -/
theorem release
    (sound : graph.Sound)
    (distinctNext : ∀ node, (graph.next node).Nodup)
    {node : α}
    (listing : graph.Listing listed (node :: waiting)) :
    graph.Listing (listed ++ [node])
      (waiting ++ (graph.next node).filter fun other =>
        (graph.prev other).all (· ∈ listed ++ [node])) := by
  have nodeMember : node ∈ graph.nodes :=
    listing.subset (by simp)
  have nodeFresh : node ∉ listed := by
    intro isListed
    exact (List.nodup_append.mp listing.nodup).2.2 node isListed node (by simp) rfl
  have mem_freed :
      ∀ other,
        other ∈ (graph.next node).filter (fun other =>
            (graph.prev other).all (· ∈ listed ++ [node])) ↔
          Arrow graph.next node other ∧ graph.prev other ⊆ listed ++ [node] := by
    intro other
    simp only [List.mem_filter, List.all_eq_true, decide_eq_true_eq, List.subset_def, Arrow]
  have regroup :
      ∀ freed : List α,
        listed ++ [node] ++ (waiting ++ freed) = (listed ++ node :: waiting) ++ freed := by
    simp
  refine ⟨?_, ?_, ?_, ?_⟩
  · exact listing.finished.snoc nodeFresh (listing.prev_subset (by simp))
  · rw [regroup, List.nodup_append]
    refine ⟨listing.nodup, (distinctNext node).filter _, ?_⟩
    -- A freed node has the node just listed among its predecessors, so it was not ready before.
    rintro other known freed isFreed rfl
    obtain ⟨arrow, -⟩ := (mem_freed other).mp isFreed
    have otherMember : other ∈ graph.nodes := listing.subset known
    have ready : graph.prev other ⊆ listed := (listing.mem_iff other otherMember).mp known
    exact nodeFresh (ready ((sound.mem_prev_iff node nodeMember other otherMember).mpr arrow))
  · rw [regroup, List.append_subset]
    refine ⟨listing.subset, ?_⟩
    intro other isFreed
    exact sound.next_mem node nodeMember other ((mem_freed other).mp isFreed).1
  · intro other otherMember
    rw [regroup, List.mem_append, listing.mem_iff other otherMember, mem_freed]
    constructor
    · intro ready
      rcases ready with readyBefore | ⟨-, readyNow⟩
      · exact List.subset_append_of_subset_left [node] readyBefore
      · exact readyNow
    · intro ready
      by_cases arrow : Arrow graph.next node other
      · exact Or.inr ⟨arrow, ready⟩
      · left
        intro earlier isPrev
        rcases List.mem_append.mp (ready isPrev) with isListed | isNode
        · exact isListed
        · obtain rfl := List.mem_singleton.mp isNode
          exact absurd ((sound.mem_prev_iff _ nodeMember other otherMember).mp isPrev) arrow

/-- A layer is listed node by node. -/
theorem foldl_release
    (sound : graph.Sound)
    (distinctNext : ∀ node, (graph.next node).Nodup)
    {layer free : List α}
    (listing : graph.Listing listed (layer ++ free)) :
    graph.Listing
        (layer.foldl graph.release ⟨listed, free⟩).listed
        (layer.foldl graph.release ⟨listed, free⟩).free ∧
      (layer.foldl graph.release ⟨listed, free⟩).listed = listed ++ layer := by
  induction layer generalizing listed free with
  | nil =>
      exact ⟨listing, (List.append_nil listed).symm⟩
  | cons node rest inductionHypothesis =>
      rw [List.cons_append] at listing
      have listingAfter := listing.release sound distinctNext
      rw [List.append_assoc] at listingAfter
      obtain ⟨listingLast, shape⟩ := inductionHypothesis listingAfter
      refine ⟨listingLast, shape.trans ?_⟩
      rw [List.append_assoc, List.singleton_append]

/-- As many layers as there are nodes are enough for nothing to wait any more. -/
theorem listLayers
    (sound : graph.Sound)
    (distinctNext : ∀ node, (graph.next node).Nodup)
    {fuel : Nat}
    {layer : List α}
    (listing : graph.Listing listed layer)
    (enough : graph.nodes.length ≤ fuel + listed.length) :
    graph.Listing (graph.listLayers fuel listed layer) [] := by
  fun_induction graph.listLayers fuel listed layer with
  | case1 listed layer =>
      -- Without fuel as many nodes are listed as there are, so none is left to wait.
      have bound : (listed ++ layer).length ≤ graph.nodes.length :=
        (listing.nodup.subperm listing.subset).length_le
      rw [List.length_append] at bound
      obtain rfl : layer = [] := List.length_eq_zero_iff.mp (by omega)
      exact listing
  | case2 _ listed =>
      exact listing
  | case3 fuel listed layer notEmpty layering inductionHypothesis =>
      rw [← List.append_nil layer] at listing
      obtain ⟨listingAfter, shape⟩ := listing.foldl_release sound distinctNext
      apply inductionHypothesis listingAfter
      have grows : 0 < layer.length := List.length_pos_iff.mpr notEmpty
      simp only [layering, shape, List.length_append]
      omega

end Listing

variable [DecidableEq α]

/-- The order lists nodes until nothing waits. -/
theorem listing_topologicalOrder
    (sound : graph.Sound)
    (nodup : graph.nodes.Nodup)
    (distinctNext : ∀ node, (graph.next node).Nodup) :
    graph.Listing graph.topologicalOrder [] :=
  (Listing.start nodup).listLayers sound distinctNext (Nat.le_add_right _ _)

/-- A graph without cycles is listed completely. -/
theorem topologicalOrder_perm
    (sound : graph.Sound)
    (nodup : graph.nodes.Nodup)
    (distinctNext : ∀ node, (graph.next node).Nodup)
    (acyclic : graph.Acyclic) :
    graph.topologicalOrder.Perm graph.nodes :=
  (listing_topologicalOrder sound nodup distinctNext).perm sound nodup acyclic

/-- What a node leads to stands behind it. -/
theorem sublist_topologicalOrder
    (sound : graph.Sound)
    (nodup : graph.nodes.Nodup)
    (distinctNext : ∀ node, (graph.next node).Nodup)
    (acyclic : graph.Acyclic)
    {source target : α}
    (sourceMember : source ∈ graph.nodes)
    (arrow : Arrow graph.next source target) :
    [source, target].Sublist graph.topologicalOrder := by
  have targetMember : target ∈ graph.nodes :=
    sound.next_mem source sourceMember target arrow
  have targetListed : target ∈ graph.topologicalOrder :=
    (topologicalOrder_perm sound nodup distinctNext acyclic).mem_iff.mpr targetMember
  have back : Arrow graph.prev target source :=
    (sound.mem_prev_iff source sourceMember target targetMember).mpr arrow
  exact (listing_topologicalOrder sound nodup distinctNext).finished.sublist_of_arrow
    targetListed back

end CargoDeps.Digraph
