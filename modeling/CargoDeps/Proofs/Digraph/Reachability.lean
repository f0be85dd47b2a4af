import CargoDeps.Digraph.Basic
import Mathlib.Data.List.Chain
import Mathlib.Data.List.Nodup
import Mathlib.Data.List.Perm.Subperm
import Mathlib.Logic.Relation

namespace CargoDeps.Digraph

/-!
# Reachability

Paths along the arrows that a successor function gives.  The searches of this library are described
by them, and so are the classes of nodes that reach each other.
-/

variable {α : Type}

/-- An arrow leads from one node to another. -/
def Arrow (next : α → List α) (source target : α) : Prop :=
  target ∈ next source

/-- A path, which may be empty, leads from one node to another. -/
abbrev Reaches (next : α → List α) : α → α → Prop :=
  Relation.ReflTransGen (Arrow next)

/-- Two nodes reach each other. -/
def Mutual
    (next : α → List α)
    (first second : α) : Prop :=
  Reaches next first second ∧ Reaches next second first

namespace Mutual

variable {next : α → List α}

theorem refl (node : α) : Mutual next node node :=
  ⟨.refl, .refl⟩

theorem symm
    {first second : α}
    (both : Mutual next first second) :
    Mutual next second first :=
  ⟨both.2, both.1⟩

theorem trans
    {first second third : α}
    (earlier : Mutual next first second)
    (later : Mutual next second third) :
    Mutual next first third :=
  ⟨earlier.1.trans later.1, later.2.trans earlier.2⟩

end Mutual

namespace Reaches

variable {next : α → List α}

/-- A path never leaves a list of nodes that is closed under arrows. -/
theorem mem_of_closed
    {nodes : List α}
    {source target : α}
    (path : Reaches next source target)
    (closed : ∀ node ∈ nodes, next node ⊆ nodes)
    (member : source ∈ nodes) :
    target ∈ nodes := by
  induction path with
  | refl =>
      exact member
  | tail _ arrow inductionHypothesis =>
      exact closed _ inductionHypothesis arrow

/-- Where all arrows of one kind are arrows of another, so are all paths. -/
theorem of_arrows
    {other : α → List α}
    {source target : α}
    (path : Reaches next source target)
    (arrows : ∀ node, next node ⊆ other node) :
    Reaches other source target :=
  Relation.ReflTransGen.mono (fun node _ arrow => arrows node arrow) _ _ path

/-- A path runs inside a list of nodes if every node between its ends belongs to the list. -/
theorem within
    [DecidableEq α]
    {members : List α}
    {source target : α}
    (path : Reaches next source target)
    (kept :
      ∀ node,
        Reaches next source node →
        Reaches next node target →
        node ∈ members) :
    Reaches (fun node => (next node).filter (· ∈ members)) source target := by
  induction path with
  | refl =>
      exact .refl
  | @tail middle last earlier arrow inductionHypothesis =>
      have keptBefore :
          ∀ node,
            Reaches next source node →
            Reaches next node middle →
            node ∈ members := by
        intro node fromSource toMiddle
        exact kept node fromSource (toMiddle.tail arrow)
      have lastKept : last ∈ members :=
        kept last (earlier.tail arrow) .refl
      refine (inductionHypothesis keptBefore).tail ?_
      exact List.mem_filter.mpr ⟨arrow, by simpa using lastKept⟩

/-- A path inside a list of nodes is a path. -/
theorem of_within
    [DecidableEq α]
    {members : List α}
    {source target : α}
    (path : Reaches (fun node => (next node).filter (· ∈ members)) source target) :
    Reaches next source target :=
  path.of_arrows fun node => List.filter_subset_self (next node)

/-- A path inside a list of nodes ends in the list, unless it is empty. -/
theorem eq_or_mem_of_within
    [DecidableEq α]
    {members : List α}
    {source target : α}
    (path : Reaches (fun node => (next node).filter (· ∈ members)) source target) :
    target = source ∨ target ∈ members := by
  cases path with
  | refl =>
      exact Or.inl rfl
  | tail _ arrow =>
      exact Or.inr (by simpa using (List.mem_filter.mp arrow).2)

end Reaches

/-- A path of some number of arrows leads to a node from one of the starts. -/
inductive ReachesIn
    (next : α → List α)
    (starts : List α) : Nat → α → Prop
  | start
      {node : α} :
      node ∈ starts →
      ReachesIn next starts 0 node
  | step
      {count : Nat}
      {node other : α} :
      ReachesIn next starts count node →
      other ∈ next node →
      ReachesIn next starts (count + 1) other

theorem exists_reachesIn_iff
    {next : α → List α}
    {starts : List α}
    {node : α} :
    (∃ count, ReachesIn next starts count node) ↔ ∃ start ∈ starts, Reaches next start node := by
  constructor
  · intro reached
    obtain ⟨count, path⟩ := reached
    induction path with
    | start isStart =>
        exact ⟨_, isStart, .refl⟩
    | step _ arrow inductionHypothesis =>
        obtain ⟨start, isStart, earlier⟩ := inductionHypothesis
        exact ⟨start, isStart, earlier.tail arrow⟩
  · intro reached
    obtain ⟨start, isStart, path⟩ := reached
    induction path with
    | refl =>
        exact ⟨0, .start isStart⟩
    | tail _ arrow inductionHypothesis =>
        obtain ⟨count, earlier⟩ := inductionHypothesis
        exact ⟨count + 1, .step earlier arrow⟩

namespace Sound

variable {graph : Digraph α}

/-- Arrows lead from nodes to nodes. -/
theorem next_subset
    (sound : graph.Sound) :
    ∀ node ∈ graph.nodes, graph.next node ⊆ graph.nodes :=
  fun node member other arrow => sound.next_mem node member other arrow

/-- The graph with its arrows turned around is as good a graph. -/
theorem reversed
    (sound : graph.Sound) :
    graph.reversed.Sound where
  next_mem := sound.prev_mem
  mem_prev_iff := by
    intro first firstMember second secondMember
    exact (sound.mem_prev_iff second secondMember first firstMember).symm
  prev_mem := sound.next_mem

/-- So is the part of the graph on the nodes of a list. -/
theorem within
    [DecidableEq α]
    (sound : graph.Sound)
    (members : List α) :
    (graph.within members).Sound where
  next_mem := by
    intro source sourceMember target arrow
    obtain ⟨sourceNode, -⟩ := List.mem_filter.mp sourceMember
    obtain ⟨arrow, targetKept⟩ := List.mem_filter.mp arrow
    exact List.mem_filter.mpr ⟨sound.next_mem source sourceNode target arrow, targetKept⟩
  mem_prev_iff := by
    intro source sourceMember target targetMember
    obtain ⟨sourceNode, sourceKept⟩ := List.mem_filter.mp sourceMember
    obtain ⟨targetNode, targetKept⟩ := List.mem_filter.mp targetMember
    simp only [Digraph.within, List.mem_filter, sourceKept, targetKept, and_true]
    exact sound.mem_prev_iff source sourceNode target targetNode
  prev_mem := by
    intro target targetMember source arrow
    obtain ⟨targetNode, -⟩ := List.mem_filter.mp targetMember
    obtain ⟨arrow, sourceKept⟩ := List.mem_filter.mp arrow
    exact List.mem_filter.mpr ⟨sound.prev_mem target targetNode source arrow, sourceKept⟩

/-- A path against the arrows is a path along them from its end to its start. -/
theorem reaches_of_prev
    (sound : graph.Sound)
    {source target : α}
    (member : target ∈ graph.nodes)
    (path : Reaches graph.prev target source) :
    Reaches graph.next source target := by
  have inGraph : ∀ {node}, Reaches graph.prev target node → node ∈ graph.nodes := by
    intro node toNode
    exact toNode.mem_of_closed sound.reversed.next_subset member
  induction path with
  | refl =>
      exact .refl
  | @tail middle last earlier arrow inductionHypothesis =>
      have lastMember : last ∈ graph.nodes := inGraph (earlier.tail arrow)
      have forward : last ∈ graph.prev middle ↔ middle ∈ graph.next last :=
        sound.mem_prev_iff last lastMember middle (inGraph earlier)
      exact .head (forward.mp arrow) inductionHypothesis

/-- Paths can be told in both directions. -/
theorem reaches_prev_iff
    (sound : graph.Sound)
    {source target : α}
    (sourceMember : source ∈ graph.nodes)
    (targetMember : target ∈ graph.nodes) :
    Reaches graph.prev target source ↔ Reaches graph.next source target :=
  ⟨sound.reaches_of_prev targetMember, sound.reversed.reaches_of_prev sourceMember⟩

end Sound

end CargoDeps.Digraph
