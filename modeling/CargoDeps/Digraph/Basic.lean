import CargoDeps.Sequence.Basic

namespace CargoDeps

/-!
# Directed graphs

Finite directed graphs, given by their nodes and the neighbours of each node in both directions, and
the searches through them.  All orders matter: searches look at nodes and neighbours in the order in
which they are listed.
-/

/-- A directed graph. -/
structure Digraph (α : Type) where
  nodes : List α
  next : α → List α
  prev : α → List α

namespace Digraph

variable {α : Type}

/-- The graph with its arrows turned around. -/
def reversed (graph : Digraph α) : Digraph α :=
  ⟨graph.nodes, graph.prev, graph.next⟩

/-- The part of the graph on the nodes of a list. -/
def within [DecidableEq α] (graph : Digraph α) (members : List α) : Digraph α where
  nodes := graph.nodes.filter (· ∈ members)
  next node := (graph.next node).filter (· ∈ members)
  prev node := (graph.prev node).filter (· ∈ members)

/-- What is expected of a graph: arrows lead from nodes to nodes, and both directions tell of the
same arrows. -/
structure Sound (graph : Digraph α) : Prop where
  next_mem : ∀ a ∈ graph.nodes, ∀ b ∈ graph.next a, b ∈ graph.nodes
  mem_prev_iff : ∀ a ∈ graph.nodes, ∀ b ∈ graph.nodes, a ∈ graph.prev b ↔ b ∈ graph.next a
  prev_mem : ∀ b ∈ graph.nodes, ∀ a ∈ graph.prev b, a ∈ graph.nodes

section Searches

variable [DecidableEq α]

/-! ### Breadth-first search -/

/-- Go on searching when the nodes of `done` have been left and those of `waiting` found.  Each
step leaves the first waiting node; the fuel bounds the number of steps. -/
def explore (next : α → List α) : Nat → List α → List α → List α
  | 0, done, waiting => done ++ waiting
  | _ + 1, done, [] => done
  | fuel + 1, done, node :: waiting =>
      let found := Sequence.fresh (done ++ node :: waiting) (next node)
      explore next fuel (done ++ [node]) (waiting ++ found)

/-- The nodes that can be reached from the starting nodes, which come first themselves.  A search
leaves each node of the graph at most once. -/
def reach (graph : Digraph α) (starts : List α) : List α :=
  explore graph.next graph.nodes.length [] (Sequence.distinct starts)

/-- The nodes that can be reached from a node by way of the nodes of a list. -/
def reachWithin (graph : Digraph α) (members : List α) (start : α) : List α :=
  explore (fun node => (graph.next node).filter (· ∈ members)) graph.nodes.length [] [start]

/-! ### Depth-first search

One search gives two orders: that in which nodes are entered and that in which they are left.
`finishFrom` is the search that gives up at the first arrow back to a node on the current path. -/

/-- The nodes that a search has entered and those that it has left, each in order. -/
structure Traversal (α : Type) where
  entered : List α
  left : List α

/-- The search that has not begun. -/
def Traversal.start : Traversal α := ⟨[], []⟩

/-- Search on from a node, unless it has been entered before.  The fuel bounds the length of the
path on which the search stands. -/
def descend (next : α → List α) : Nat → Traversal α → α → Traversal α
  | 0, traversal, _ => traversal
  | fuel + 1, traversal, node =>
      if node ∈ traversal.entered then
        traversal
      else
        let inside :=
          (next node).foldl (descend next fuel)
            { traversal with entered := traversal.entered ++ [node] }
        { inside with left := inside.left ++ [node] }

/-- The nodes that can be reached from `start`, in the order in which a search enters them. -/
def preorder (graph : Digraph α) (start : α) : List α :=
  (descend graph.next graph.nodes.length .start start).entered

/-- All nodes, in the order in which a search that starts at one node after the other leaves
them. -/
def leavingOrder (graph : Digraph α) : List α :=
  (graph.nodes.foldl (descend graph.next graph.nodes.length) .start).left

/-- Search on from a node behind the nodes of `path`, when those of `done` have been left.  The
error is the part of the path that an arrow closes to a cycle.  The fuel bounds the length of the
path. -/
def finishFrom (next : α → List α) : Nat → List α → List α → α → Except (List α) (List α)
  | 0, _, done, _ => .ok done
  | fuel + 1, path, done, node =>
      let path := path ++ [node]
      let visit (done : List α) (successor : α) : Except (List α) (List α) :=
        if successor ∈ path then
          .error (path.dropWhile (· ≠ successor))
        else if successor ∈ done then
          .ok done
        else
          finishFrom next fuel path done successor
      ((next node).foldlM visit done).map (· ++ [node])

end Searches

end Digraph

end CargoDeps
