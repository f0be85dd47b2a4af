import CargoDeps.Digraph.Basic

namespace CargoDeps.Digraph

/-!
# Shortest paths and closed walks

A path with as few arrows as possible, found by searching from both ends at once.  The side with
the smaller front goes on, the source's side if both fronts are alike.  Each side keeps for every
node it has found the trail back to its own end.  Of such paths a closed walk is made: one through
all nodes of a strongly connected graph that ends where it began.
-/

variable {α : Type} [DecidableEq α]

/-- What one side of the search has found: a trail for each node, from the node back to the side's
own end, and the nodes of its last round. -/
structure Side (α : Type) where
  trails : List (α × List α)
  front : List α

namespace Side

/-- The side that has found its own end only. -/
def start (node : α) : Side α :=
  ⟨[(node, [node])], [node]⟩

/-- The trail from a found node. -/
def trail? (side : Side α) (node : α) : Option (List α) :=
  side.trails.lookup node

/-- Whether the side has found a node. -/
def found (side : Side α) (node : α) : Bool :=
  (side.trail? node).isSome

/-- Record a node that is found along an arrow at the end of a trail. -/
def add (side : Side α) (trail : List α) (node : α) : Side α :=
  if side.found node then
    side
  else
    ⟨side.trails ++ [(node, node :: trail)], side.front ++ [node]⟩

/-- Record the neighbours of one node, up to the first that the other side has found too. -/
def meetAmong (other : Side α) (trail : List α) :
    Side α → List α → Side α × Option α
  | side, [] => (side, none)
  | side, node :: rest =>
      let side := side.add trail node
      if other.found node then
        (side, some node)
      else
        meetAmong other trail side rest

/-- One round: record the neighbours of the nodes of a front, up to the first that the other side
has found too. -/
def advance (neighbours : α → List α) (other : Side α) : Side α → List α → Side α × Option α
  | side, [] => (side, none)
  | side, node :: rest =>
      match meetAmong other ((side.trail? node).getD []) side (neighbours node) with
      | (side, some meeting) => (side, some meeting)
      | (side, none) => advance neighbours other side rest

end Side

/-- The path through a node that both sides have found. -/
def joinTrails (ahead behind : Side α) (meeting : α) : Option (List α) := do
  let before ← ahead.trail? meeting
  let after ← behind.trail? meeting
  return before.reverse ++ after.tail

/-- Search on from both sides.  The fuel bounds the number of rounds. -/
def meetBetween (graph : Digraph α) : Nat → Side α → Side α → Option (List α)
  | 0, _, _ => none
  | fuel + 1, ahead, behind =>
      if ahead.front = [] ∨ behind.front = [] then
        none
      else if ahead.front.length ≤ behind.front.length then
        match Side.advance graph.next behind { ahead with front := [] } ahead.front with
        | (ahead, some meeting) => joinTrails ahead behind meeting
        | (ahead, none) => meetBetween graph fuel ahead behind
      else
        match Side.advance graph.prev ahead { behind with front := [] } behind.front with
        | (behind, some meeting) => joinTrails ahead behind meeting
        | (behind, none) => meetBetween graph fuel ahead behind

/-- A shortest path from one node to another, both included, if there is any.  Every round but the
last two finds a node that was not found before, so their number is bounded by the nodes of both
sides. -/
def shortestPath? (graph : Digraph α) (source target : α) : Option (List α) :=
  if source = target then
    some [source]
  else
    meetBetween graph (2 * graph.nodes.length + 2) (.start source) (.start target)

/-! ### Closed walks -/

/-- Lengthen a walk, which ends at `last`, by shortest paths to the nodes of a list that it does
not pass yet. -/
def extendWalk (graph : Digraph α) : List α → α → List α → Option (List α × α)
  | walk, last, [] => some (walk, last)
  | walk, last, node :: rest =>
      if node ∈ walk then
        extendWalk graph walk last rest
      else
        match graph.shortestPath? last node with
        | some path => extendWalk graph (walk ++ path.tail) node rest
        | none => none

/-- The closed walk from a node through all nodes that can be reached from it, in the order in which
a depth-first search enters them.  The arrow from its last node back to the first is implied. -/
def closedWalk? (graph : Digraph α) (start : α) : Option (List α) := do
  let (walk, last) ← graph.extendWalk [start] start (graph.preorder start)
  let back ← graph.shortestPath? last start
  return walk ++ back.tail.dropLast

end CargoDeps.Digraph
