import CargoDeps.Proofs.Query.Cycle
import CargoDeps.Proofs.Query.Reach

namespace CargoDeps.PackageGraph

/-!
# Dependence and cycles

A package depends on another if a path of at least one chosen edge leads there, which a search from
its direct dependencies finds.  Two packages that depend on each other are of one class, and a class
with such a pair has a cycle: the two notions agree, also where the two packages are the same.
-/

open Relation (TransGen)

variable {graph : PackageGraph} {chosen : EdgePredicate} {first second : PackageId}

/-- What a package depends on is what its direct dependencies reach. -/
theorem dependsOn_iff :
    graph.dependsOn first second chosen = true ↔ TransGen (graph.Links chosen) first second := by
  have known : (graph.along chosen).next first ⊆ (graph.along chosen).nodes := by
    intro next arrow
    exact (mem_next_along.mp arrow).target_mem
  simp only [dependsOn, decide_eq_true_eq, Digraph.mem_reach_iff sound_along known,
    mem_next_along, Digraph.Reaches, arrow_along]
  exact TransGen.head'_iff.symm

/-- Two packages depend on each other if and only if they are members of one cyclic class. -/
theorem exists_isCyclicClass_pair_iff :
    (∃ members, graph.IsCyclicClass chosen members ∧ first ∈ members ∧ second ∈ members) ↔
      TransGen (graph.Links chosen) first second ∧
        TransGen (graph.Links chosen) second first := by
  constructor
  · intro together
    obtain ⟨members, isCyclicClass, firstMember, secondMember⟩ := together
    -- A member links to a member first, so the paths between members are not empty.
    have depends :
        ∀ {source target},
          source ∈ members →
          target ∈ members →
          TransGen (graph.Links chosen) source target := by
      intro source target sourceMember targetMember
      obtain ⟨next, nextMember, links⟩ := isCyclicClass.exists_links sourceMember
      exact .head' links (isCyclicClass.1.leads nextMember targetMember)
    exact ⟨depends firstMember secondMember, depends secondMember firstMember⟩
  · intro both
    obtain ⟨forward, back⟩ := both
    obtain ⟨members, isCyclicClass, member⟩ :=
      exists_isCyclicClass_iff.mpr (forward.trans back)
    exact ⟨members, isCyclicClass, member,
      isCyclicClass.1.mem_of_between member member forward.to_reflTransGen
        back.to_reflTransGen⟩

/-- Two packages are members of one cycle found if and only if they are of one cyclic class. -/
theorem exists_cycle_pair_iff :
    (∃ cycle ∈ graph.findCycles chosen, first ∈ cycle.members ∧ second ∈ cycle.members) ↔
      ∃ members, graph.IsCyclicClass chosen members ∧ first ∈ members ∧ second ∈ members := by
  constructor
  · intro found
    obtain ⟨cycle, listed, firstMember, secondMember⟩ := found
    exact ⟨{id | id ∈ cycle.members}, exists_members_eq_iff.mp ⟨cycle, listed, rfl⟩,
      firstMember, secondMember⟩
  · intro together
    obtain ⟨members, isCyclicClass, firstMember, secondMember⟩ := together
    obtain ⟨cycle, listed, rfl⟩ := exists_members_eq_iff.mpr isCyclicClass
    exact ⟨cycle, listed, firstMember, secondMember⟩

theorem isCyclic_iff :
    graph.isCyclic first second chosen = true ↔
      TransGen (graph.Links chosen) first second ∧
        TransGen (graph.Links chosen) second first := by
  rw [isCyclic, Bool.and_eq_true, dependsOn_iff, dependsOn_iff]

/--
A package depends on another exactly if a path of at least one chosen edge leads there.  Two
packages depend on each other exactly if one cycle has both as members, and a package depends on
itself exactly if it is a member of a cycle.
-/
theorem dependence_agrees_with_cycles
    (graph : PackageGraph)
    (chosen : EdgePredicate)
    (first second : PackageId) :
    (graph.dependsOn first second chosen = true ↔
      TransGen (graph.Links chosen) first second) ∧
    (graph.isCyclic first second chosen = true ↔
      ∃ cycle ∈ graph.findCycles chosen, first ∈ cycle.members ∧ second ∈ cycle.members) ∧
    (graph.dependsOn first first chosen = true ↔
      ∃ cycle ∈ graph.findCycles chosen, first ∈ cycle.members) := by
  refine ⟨dependsOn_iff, ?_, ?_⟩
  · rw [isCyclic_iff, exists_cycle_pair_iff, exists_isCyclicClass_pair_iff]
  · rw [dependsOn_iff, exists_mem_members_iff]

end CargoDeps.PackageGraph
