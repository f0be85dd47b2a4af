import CargoDeps.Graph.Basic
import CargoDeps.Proofs.Digraph.Reachability

namespace CargoDeps.PackageGraph

/-!
# Paths along chosen edges

One package leads to another if there is a path of chosen edges between them.  The graphs that the
searches run on are sound, and their paths are these.
-/

/-- A chosen edge leads from one package to another. -/
def Links
    (graph : PackageGraph)
    (chosen : EdgePredicate)
    (source target : PackageId) : Prop :=
  ∃ edge ∈ graph.edges,
    edge.source = source ∧
      edge.target = target ∧
        chosen edge = true

/-- A path of chosen edges, which may be empty, leads from one package to another. -/
abbrev Leads
    (graph : PackageGraph)
    (chosen : EdgePredicate) : PackageId → PackageId → Prop :=
  Relation.ReflTransGen (graph.Links chosen)

variable {graph : PackageGraph} {chosen : EdgePredicate} {source target : PackageId}

theorem Links.source_mem
    (links : graph.Links chosen source target) :
    source ∈ graph.ids := by
  obtain ⟨edge, member, rfl, -, -⟩ := links
  exact graph.source_mem edge member

theorem Links.target_mem
    (links : graph.Links chosen source target) :
    target ∈ graph.ids := by
  obtain ⟨edge, member, -, rfl, -⟩ := links
  exact graph.target_mem edge member

/-! ### The graph along chosen edges -/

theorem mem_next_along :
    target ∈ (graph.along chosen).next source ↔ graph.Links chosen source target := by
  simp only [along, Links, List.mem_map, List.mem_filter, mem_edgesFrom]
  constructor
  · rintro ⟨edge, ⟨⟨member, fromSource⟩, accepted⟩, toTarget⟩
    exact ⟨edge, member, fromSource, toTarget, accepted⟩
  · rintro ⟨edge, member, fromSource, toTarget, accepted⟩
    exact ⟨edge, ⟨⟨member, fromSource⟩, accepted⟩, toTarget⟩

theorem mem_prev_along :
    source ∈ (graph.along chosen).prev target ↔ graph.Links chosen source target := by
  simp only [along, Links, List.mem_map, List.mem_filter, mem_edgesTo]
  constructor
  · rintro ⟨edge, ⟨⟨member, toTarget⟩, accepted⟩, fromSource⟩
    exact ⟨edge, member, fromSource, toTarget, accepted⟩
  · rintro ⟨edge, member, fromSource, toTarget, accepted⟩
    exact ⟨edge, ⟨⟨member, toTarget⟩, accepted⟩, fromSource⟩

theorem arrow_along :
    Digraph.Arrow (graph.along chosen).next = graph.Links chosen := by
  funext source target
  exact propext mem_next_along

theorem sound_along : (graph.along chosen).Sound where
  next_mem := by
    intro source _ target arrow
    exact (mem_next_along.mp arrow).target_mem
  mem_prev_iff := by
    intro source _ target _
    rw [mem_prev_along, mem_next_along]
  prev_mem := by
    intro target _ source arrow
    exact (mem_prev_along.mp arrow).source_mem

/-! ### The view along chosen edges -/

theorem mem_next_view :
    target ∈ (graph.view chosen).next source ↔ graph.Links chosen source target := by
  simp only [view, Links, List.mem_filter, Sequence.mem_distinct, List.mem_map, List.any_eq_true,
    mem_edgesFrom, Bool.and_eq_true, decide_eq_true_eq]
  constructor
  · rintro ⟨-, edge, ⟨member, fromSource⟩, toTarget, accepted⟩
    exact ⟨edge, member, fromSource, toTarget, accepted⟩
  · rintro ⟨edge, member, fromSource, toTarget, accepted⟩
    exact ⟨⟨edge, ⟨member, fromSource⟩, toTarget⟩,
      edge, ⟨member, fromSource⟩, toTarget, accepted⟩

theorem mem_prev_view :
    source ∈ (graph.view chosen).prev target ↔ graph.Links chosen source target := by
  simp only [view, Links, List.mem_filter, Sequence.mem_distinct, List.mem_map, List.any_eq_true,
    mem_edgesTo, Bool.and_eq_true, decide_eq_true_eq]
  constructor
  · rintro ⟨-, edge, ⟨member, toTarget⟩, fromSource, accepted⟩
    exact ⟨edge, member, fromSource, toTarget, accepted⟩
  · rintro ⟨edge, member, fromSource, toTarget, accepted⟩
    exact ⟨⟨edge, ⟨member, toTarget⟩, fromSource⟩,
      edge, ⟨member, toTarget⟩, fromSource, accepted⟩

/-- The arrows of the view are the links. -/
theorem arrow_view :
    Digraph.Arrow (graph.view chosen).next = graph.Links chosen := by
  funext source target
  exact propext mem_next_view

theorem sound_view : (graph.view chosen).Sound where
  next_mem := by
    intro source _ target arrow
    exact (mem_next_view.mp arrow).target_mem
  mem_prev_iff := by
    intro source _ target _
    rw [mem_prev_view, mem_next_view]
  prev_mem := by
    intro target _ source arrow
    exact (mem_prev_view.mp arrow).source_mem

/-- Two packages reach each other in the view if each leads to the other. -/
theorem mutual_view :
    Digraph.Mutual (graph.view chosen).next source target ↔
      graph.Leads chosen source target ∧ graph.Leads chosen target source := by
  rw [Digraph.Mutual, Digraph.Reaches, arrow_view]

end CargoDeps.PackageGraph
