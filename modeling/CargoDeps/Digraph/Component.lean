import CargoDeps.Digraph.Basic

namespace CargoDeps.Digraph

/-!
# Strongly connected components

The components of a graph are its classes of mutual reachability.  They are listed by the node of
each that a depth-first search leaves last, so a component stands behind the components that it
leads to.  Components are taken off one by one, beginning with the node left last of all: what leads
to it among the nodes not yet taken is then no more than its own component.  The condensation, whose
nodes are the components, has a topological order.
-/

variable {α : Type} [DecidableEq α]

/-- The component of a node in the part of the graph on `remaining`, in the order of the graph: the
nodes that lead to it, as far as it leads to them by way of such nodes. -/
def component (graph : Digraph α) (remaining : List α) (node : α) : List α :=
  let behind := graph.reversed.reachWithin remaining node
  let members := graph.reachWithin behind node
  graph.nodes.filter (· ∈ members)

/-- The components taken off so far, the last one first, and the nodes that remain. -/
structure Partition (α : Type) where
  taken : List (List α)
  remaining : List α

/-- Take off the component of a node, unless the node has gone with another. -/
def takeOff (graph : Digraph α) (partition : Partition α) (node : α) : Partition α :=
  if node ∈ partition.remaining then
    let members := graph.component partition.remaining node
    ⟨members :: partition.taken, partition.remaining.filter (· ∉ members)⟩
  else
    partition

/-- The components of the graph. -/
def components (graph : Digraph α) : List (List α) :=
  (graph.leavingOrder.reverse.foldl graph.takeOff ⟨[], graph.nodes⟩).taken

/-- Whether a component holds a cycle: it has several nodes, or its node leads to itself. -/
def isCyclic (graph : Digraph α) : List α → Bool
  | [] => false
  | [node] => node ∈ graph.next node
  | _ :: _ :: _ => true

/-! ### Condensation -/

/-- The position of the component that holds a node. -/
def componentOf (components : List (List α)) (node : α) : Nat :=
  components.findIdx (node ∈ ·)

/-- The arrows of the graph that lead from one component to another, as pairs of positions, in the
order of the graph. -/
def crossings (graph : Digraph α) (components : List (List α)) : List (Nat × Nat) :=
  (graph.nodes.flatMap fun node =>
    (graph.next node).map fun other =>
      (componentOf components node, componentOf components other)).filter
    fun (source, target) => source ≠ target

/-- The graph of the components, each known by its position. -/
def condensation (graph : Digraph α) (components : List (List α)) : Digraph Nat :=
  let crossings := Sequence.distinct (graph.crossings components)
  { nodes := List.range components.length
    next := fun source => (crossings.filter (·.1 = source)).map (·.2)
    prev := fun target => (crossings.filter (·.2 = target)).map (·.1) }

/-! ### Topological order

The nodes of a graph layer by layer: first those that no arrow enters, then again and again those
whose last predecessor was listed in the layer before. -/

/-- The nodes listed so far, and those that are free to be listed in the next layer. -/
structure Layering (α : Type) where
  listed : List α
  free : List α

/-- List a node and free its neighbours that have no other predecessors left. -/
def release (graph : Digraph α) (layering : Layering α) (node : α) : Layering α :=
  let listed := layering.listed ++ [node]
  let freed := (graph.next node).filter fun other => (graph.prev other).all (· ∈ listed)
  ⟨listed, layering.free ++ freed⟩

/-- List a layer and all that follow.  The fuel bounds the number of layers. -/
def listLayers (graph : Digraph α) : Nat → List α → List α → List α
  | 0, listed, _ => listed
  | _ + 1, listed, [] => listed
  | fuel + 1, listed, layer =>
      let layering := layer.foldl graph.release ⟨listed, []⟩
      listLayers graph fuel layering.listed layering.free

/-- The nodes of a graph without cycles, each before those that it leads to. -/
def topologicalOrder (graph : Digraph α) : List α :=
  graph.listLayers graph.nodes.length [] (graph.nodes.filter fun node => (graph.prev node).isEmpty)

end CargoDeps.Digraph
