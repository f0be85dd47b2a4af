import CargoDeps.Digraph.Basic
import CargoDeps.Proofs.Digraph.Reachability

namespace CargoDeps.Digraph

/-!
# Depth-first search enters what paths reach

A node is left after everything that it leads to has been entered.  A visit leaves all nodes that it
enters, so the nodes entered from the outermost start are closed under arrows.  The path on which a
search stands consists of entered nodes, which bounds its length by the number of nodes.
-/

variable {α : Type}

namespace Traversal

/-- What holds of a search inside a list of nodes whenever it enters or leaves a node. -/
structure Consistent
    (next : α → List α)
    (nodes : List α)
    (traversal : Traversal α) : Prop where
  nodup : traversal.entered.Nodup
  subset : traversal.entered ⊆ nodes
  left_subset : traversal.left ⊆ traversal.entered
  arrows : ∀ node ∈ traversal.left, next node ⊆ traversal.entered

/-- What the visit of some nodes, one after the other, makes of a search. -/
structure Visited
    (next : α → List α)
    (nodes sources : List α)
    (before after : Traversal α) : Prop where
  consistent : after.Consistent next nodes
  entered_subset : before.entered ⊆ after.entered
  left_subset : before.left ⊆ after.left
  sources_subset : sources ⊆ after.entered
  new_node :
    ∀ node ∈ after.entered,
      node ∈ before.entered ∨
        node ∈ after.left ∧ ∃ source ∈ sources, Reaches next source node

variable {next : α → List α} {nodes : List α} {traversal : Traversal α}

theorem Consistent.start : (start : Traversal α).Consistent next nodes := by
  constructor <;> simp [Traversal.start]

/-- A node that is not entered yet can be entered. -/
theorem Consistent.enter
    {node : α}
    (consistent : traversal.Consistent next nodes)
    (member : node ∈ nodes)
    (fresh : node ∉ traversal.entered) :
    Consistent next nodes { traversal with entered := traversal.entered ++ [node] } where
  nodup := by
    rw [← List.concat_eq_append]
    exact List.Nodup.concat fresh consistent.nodup
  subset := by
    rw [List.append_subset]
    exact ⟨consistent.subset, by simpa using member⟩
  left_subset := fun _ left => List.mem_append_left _ (consistent.left_subset left)
  arrows := fun known left _ arrow => List.mem_append_left _ (consistent.arrows known left arrow)

/-- A consistent search has entered everything once it has entered as many nodes as there are. -/
theorem Consistent.mem_entered
    {node : α}
    (consistent : traversal.Consistent next nodes)
    (enough : nodes.length ≤ traversal.entered.length)
    (member : node ∈ nodes) :
    node ∈ traversal.entered := by
  have rearranged : traversal.entered.Perm nodes :=
    (consistent.nodup.subperm consistent.subset).perm_of_length_le enough
  exact rearranged.mem_iff.mpr member

namespace Visited

theorem nil
    (consistent : traversal.Consistent next nodes) :
    Visited next nodes [] traversal traversal where
  consistent := consistent
  entered_subset := List.Subset.refl _
  left_subset := List.Subset.refl _
  sources_subset := List.nil_subset _
  new_node := fun _ known => Or.inl known

theorem known
    {node : α}
    (consistent : traversal.Consistent next nodes)
    (entered : node ∈ traversal.entered) :
    Visited next nodes [node] traversal traversal where
  consistent := consistent
  entered_subset := List.Subset.refl _
  left_subset := List.Subset.refl _
  sources_subset := by simpa using entered
  new_node := fun _ member => Or.inl member

theorem cons
    {source : α}
    {rest : List α}
    {before between after : Traversal α}
    (first : Visited next nodes [source] before between)
    (later : Visited next nodes rest between after) :
    Visited next nodes (source :: rest) before after where
  consistent := later.consistent
  entered_subset := List.Subset.trans first.entered_subset later.entered_subset
  left_subset := List.Subset.trans first.left_subset later.left_subset
  sources_subset := by
    rw [List.cons_subset]
    exact ⟨later.entered_subset (first.sources_subset (by simp)), later.sources_subset⟩
  new_node := by
    intro node member
    rcases later.new_node node member with enteredBetween | ⟨left, start, startMember, path⟩
    · rcases first.new_node node enteredBetween with enteredBefore | ⟨left, start, isSource, path⟩
      · exact Or.inl enteredBefore
      · obtain rfl := List.mem_singleton.mp isSource
        exact Or.inr ⟨later.left_subset left, start, by simp, path⟩
    · exact Or.inr ⟨left, start, List.mem_cons_of_mem _ startMember, path⟩

/-- A node is left when everything that it leads to has been visited. -/
theorem leave
    {node : α}
    {inside : Traversal α}
    (visited :
      Visited next nodes (next node)
        { traversal with entered := traversal.entered ++ [node] } inside) :
    Visited next nodes [node] traversal { inside with left := inside.left ++ [node] } := by
  have nodeEntered : node ∈ inside.entered :=
    visited.entered_subset (by simp)
  refine ⟨⟨visited.consistent.nodup, visited.consistent.subset, ?_, ?_⟩, ?_, ?_, ?_, ?_⟩
  · rw [List.append_subset]
    exact ⟨visited.consistent.left_subset, by simpa using nodeEntered⟩
  · intro left leftMember
    rcases List.mem_append.mp leftMember with leftInside | isNode
    · exact visited.consistent.arrows left leftInside
    · obtain rfl := List.mem_singleton.mp isNode
      exact visited.sources_subset
  · exact List.Subset.trans (List.subset_append_left _ _) visited.entered_subset
  · exact List.Subset.trans visited.left_subset (List.subset_append_left _ _)
  · simpa using nodeEntered
  · intro found foundMember
    rcases visited.new_node found foundMember with entered | ⟨left, start, arrow, path⟩
    · rcases List.mem_append.mp entered with enteredBefore | isNode
      · exact Or.inl enteredBefore
      · obtain rfl := List.mem_singleton.mp isNode
        exact Or.inr ⟨by simp, found, by simp, .refl⟩
    · exact Or.inr ⟨List.mem_append_left _ left, node, by simp, .head arrow path⟩

end Visited

end Traversal

variable [DecidableEq α]

section

variable {next : α → List α} {nodes : List α}

open Traversal

/-- If one visit does what it should, so does a row of visits. -/
theorem visited_foldl
    {fuel : Nat}
    (visit :
      ∀ {traversal : Traversal α} {node : α},
        traversal.Consistent next nodes →
        nodes.length ≤ fuel + traversal.entered.length →
        node ∈ nodes →
        Visited next nodes [node] traversal (descend next fuel traversal node))
    {traversal : Traversal α}
    {sources : List α}
    (consistent : traversal.Consistent next nodes)
    (enough : nodes.length ≤ fuel + traversal.entered.length)
    (subset : sources ⊆ nodes) :
    Visited next nodes sources traversal (sources.foldl (descend next fuel) traversal) := by
  induction sources generalizing traversal with
  | nil =>
      exact .nil consistent
  | cons source rest inductionHypothesis =>
      obtain ⟨sourceMember, restSubset⟩ := List.cons_subset.mp subset
      have first := visit consistent enough sourceMember
      have grown :
          traversal.entered.length ≤ (descend next fuel traversal source).entered.length :=
        (consistent.nodup.subperm first.entered_subset).length_le
      exact first.cons (inductionHypothesis first.consistent (by omega) restSubset)

/-- The visit of a node enters all that the node reaches and leaves what it enters. -/
theorem visited_descend
    (closed : ∀ node ∈ nodes, next node ⊆ nodes)
    {fuel : Nat}
    {traversal : Traversal α}
    {node : α}
    (consistent : traversal.Consistent next nodes)
    (enough : nodes.length ≤ fuel + traversal.entered.length)
    (member : node ∈ nodes) :
    Visited next nodes [node] traversal (descend next fuel traversal node) := by
  induction fuel generalizing traversal node with
  | zero =>
      -- As many nodes have been entered as there are, so this one is among them.
      exact .known consistent (consistent.mem_entered (by omega) member)
  | succ fuel inductionHypothesis =>
      unfold descend
      split
      · next entered =>
          exact .known consistent entered
      · next fresh =>
          refine Visited.leave (visited_foldl inductionHypothesis ?_ ?_ (closed node member))
          · exact consistent.enter member fresh
          · simp only [List.length_append, List.length_singleton]
            omega

end

variable {graph : Digraph α}

/-- A search from a node enters exactly what the node reaches. -/
theorem mem_preorder_iff
    (sound : graph.Sound)
    {start node : α}
    (member : start ∈ graph.nodes) :
    node ∈ graph.preorder start ↔ Reaches graph.next start node := by
  have visited :
      Traversal.Visited graph.next graph.nodes [start] .start
        (descend graph.next graph.nodes.length .start start) :=
    visited_descend sound.next_subset .start (Nat.le_add_right _ _) member
  have isNew :
      ∀ found ∈ graph.preorder start,
        found ∈ (descend graph.next graph.nodes.length .start start).left ∧
          Reaches graph.next start found := by
    intro found foundMember
    simpa [Traversal.start] using visited.new_node found foundMember
  constructor
  · intro entered
    exact (isNew node entered).2
  · intro path
    refine path.mem_of_closed ?_ (visited.sources_subset (by simp))
    intro found foundMember
    exact visited.consistent.arrows found (isNew found foundMember).1

/-- A search from all nodes leaves all nodes. -/
theorem mem_leavingOrder
    (sound : graph.Sound)
    {node : α}
    (member : node ∈ graph.nodes) :
    node ∈ graph.leavingOrder := by
  have visited :
      Traversal.Visited graph.next graph.nodes graph.nodes .start
        (graph.nodes.foldl (descend graph.next graph.nodes.length) .start) :=
    visited_foldl (visited_descend sound.next_subset) .start (Nat.le_add_right _ _)
      (List.Subset.refl _)
  rcases visited.new_node node (visited.sources_subset member) with entered | ⟨left, -⟩
  · simp [Traversal.start] at entered
  · exact left

end CargoDeps.Digraph
