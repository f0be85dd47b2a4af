import CargoDeps.Proofs.Digraph.BreadthFirst
import CargoDeps.Proofs.Graph.Path
import CargoDeps.Proofs.Graph.Sample
import CargoDeps.Query

namespace CargoDeps.PackageGraph

/-!
# What queries reach

A query reaches the packages that chosen edges lead to from its roots, or in the reverse direction
those from which chosen edges lead to its roots, and lists each of them once.
-/

open Relation (ReflTransGen)

/-- In a direction, a path of chosen edges leads from a root to a package: in reverse it leads from
the package to the root. -/
def LeadsTowards
    (graph : PackageGraph)
    (direction : Direction)
    (chosen : EdgePredicate)
    (root id : PackageId) : Prop :=
  match direction with
  | .forward => graph.Leads chosen root id
  | .reverse => graph.Leads chosen id root

variable {graph : PackageGraph} {direction : Direction} {chosen : EdgePredicate}
  {roots : List PackageId}

theorem LeadsTowards.refl
    {id : PackageId} :
    graph.LeadsTowards direction chosen id id := by
  cases direction with
  | forward =>
      exact ReflTransGen.refl
  | reverse =>
      exact ReflTransGen.refl

theorem LeadsTowards.trans
    {first second third : PackageId}
    (earlier : graph.LeadsTowards direction chosen first second)
    (later : graph.LeadsTowards direction chosen second third) :
    graph.LeadsTowards direction chosen first third := by
  cases direction with
  | forward =>
      exact ReflTransGen.trans earlier later
  | reverse =>
      exact ReflTransGen.trans later earlier

theorem sound_towards : (graph.towards direction chosen).Sound := by
  cases direction with
  | forward =>
      exact sound_along
  | reverse =>
      exact Digraph.Sound.reversed sound_along

theorem arrow_towards_reverse :
    Digraph.Arrow (graph.towards .reverse chosen).next = Function.swap (graph.Links chosen) := by
  funext target source
  exact propext mem_prev_along

/-- The paths that a query follows are those of chosen edges, in its direction. -/
theorem reaches_towards
    {root id : PackageId} :
    Digraph.Reaches (graph.towards direction chosen).next root id ↔
      graph.LeadsTowards direction chosen root id := by
  cases direction with
  | forward =>
      rw [Digraph.Reaches, towards, arrow_along, LeadsTowards]
  | reverse =>
      rw [Digraph.Reaches, arrow_towards_reverse, Relation.reflTransGen_swap, LeadsTowards]

/-! ### Results -/

theorem nodes_towards : (graph.towards direction chosen).nodes = graph.ids := by
  cases direction <;> rfl

theorem mem_ids_reachFrom
    (known : roots ⊆ graph.ids)
    {id : PackageId} :
    id ∈ (graph.reachFrom roots direction chosen).ids ↔
      ∃ root ∈ roots, graph.LeadsTowards direction chosen root id := by
  rw [reachFrom, Digraph.mem_reach_iff sound_towards (nodes_towards ▸ known)]
  simp only [reaches_towards]

theorem nodup_ids_reachFrom
    (known : roots ⊆ graph.ids) :
    (graph.reachFrom roots direction chosen).ids.Nodup :=
  Digraph.nodup_reach sound_towards (nodes_towards ▸ known)

theorem roots_subset_ids_reachFrom
    (known : roots ⊆ graph.ids) :
    roots ⊆ (graph.reachFrom roots direction chosen).ids := by
  intro id isRoot
  exact (mem_ids_reachFrom known).mpr ⟨id, isRoot, .refl⟩

/-- What is reached are packages of the graph. -/
theorem ids_reachFrom_subset
    (known : roots ⊆ graph.ids) :
    (graph.reachFrom roots direction chosen).ids ⊆ graph.ids := by
  intro id reached
  obtain ⟨root, isRoot, path⟩ := (mem_ids_reachFrom known).mp reached
  rw [← nodes_towards]
  exact (reaches_towards.mpr path).mem_of_closed sound_towards.next_subset
    (nodes_towards ▸ known isRoot)

/-- A query has a result exactly where its roots are packages of the graph. -/
theorem query_eq_ok_iff
    {result : QueryResult} :
    graph.query roots direction chosen = .ok result ↔
      roots ⊆ graph.ids ∧ graph.reachFrom roots direction chosen = result := by
  unfold query firstUnknown?
  cases search : roots.find? (· ∉ graph.ids) with
  | some id =>
      have unknown : id ∉ graph.ids := by
        simpa using List.find?_some search
      have isRoot : id ∈ roots := List.mem_of_find?_eq_some search
      simp only [reduceCtorEq, false_iff, not_and]
      intro known
      exact absurd (known isRoot) unknown
  | none =>
      have known : roots ⊆ graph.ids := by
        intro id isRoot
        simpa using List.find?_eq_none.mp search id isRoot
      simp only [Except.ok.injEq, known, true_and]

/--
Roots in the graph have a query result.  It holds exactly the packages on paths of chosen edges from
the roots, or to them in the reverse direction, and each of them once.

The search behind it ends: from the roots on it makes turns until nothing waits any more, and what
it has left then is the result.
-/
theorem query_reaches
    (graph : PackageGraph)
    (roots : List PackageId)
    (direction : Direction)
    (chosen : EdgePredicate)
    (known : roots ⊆ graph.ids) :
    ∃ result, graph.query roots direction chosen = .ok result ∧
      (∀ id, id ∈ result.ids ↔ ∃ root ∈ roots, graph.LeadsTowards direction chosen root id) ∧
      result.ids.Nodup ∧
      ReflTransGen (Digraph.Turn (graph.towards direction chosen).next)
        ([], Sequence.distinct roots) (result.ids, []) := by
  refine ⟨graph.reachFrom roots direction chosen, query_eq_ok_iff.mpr ⟨known, rfl⟩, ?_, ?_, ?_⟩
  · intro id
    exact mem_ids_reachFrom known
  · exact nodup_ids_reachFrom known
  · exact Digraph.turns_reach sound_towards (nodes_towards ▸ known)

/-- In reverse, two packages that depend on each other are reached from themselves and from `app`,
which one of two edges depends on. -/
theorem query_paired :
    [Paired.core] ⊆ Paired.sample.ids ∧
      ∃ result, Paired.sample.query [Paired.core] .reverse Paired.firm = .ok result ∧
        result.ids = [Paired.core, Paired.lib, Paired.app] ∧
        (∀ id,
          id ∈ result.ids ↔
            ∃ root ∈ [Paired.core],
              Paired.sample.LeadsTowards .reverse Paired.firm root id) ∧
        result.ids.Nodup ∧
        ReflTransGen (Digraph.Turn (Paired.sample.towards .reverse Paired.firm).next)
          ([], Sequence.distinct [Paired.core]) (result.ids, []) := by
  have known : [Paired.core] ⊆ Paired.sample.ids := by
    decide
  obtain ⟨result, found, reached, nodup, turns⟩ :=
    query_reaches Paired.sample [Paired.core] .reverse Paired.firm known
  obtain ⟨-, rfl⟩ := query_eq_ok_iff.mp found
  exact ⟨known, _, found, by decide +kernel, reached, nodup, turns⟩

/-! ### Duality -/

/-- Some root leads to some package against the edges exactly if that package leads to the root
along them. -/
theorem exists_leadsTowards_swap
    {first second : List PackageId} :
    (∃ root ∈ second, ∃ id ∈ first, graph.LeadsTowards .reverse chosen root id) ↔
      ∃ root ∈ first, ∃ id ∈ second, graph.LeadsTowards .forward chosen root id := by
  constructor
  · intro backwards
    obtain ⟨root, isRoot, id, member, path⟩ := backwards
    exact ⟨id, member, root, isRoot, path⟩
  · intro onwards
    obtain ⟨root, isRoot, id, member, path⟩ := onwards
    exact ⟨id, member, root, isRoot, path⟩

/-- A query reaches some of the packages exactly if a root leads to one of them. -/
theorem exists_mem_ids_reachFrom_iff
    (known : roots ⊆ graph.ids)
    {packages : List PackageId} :
    (∃ id ∈ packages, id ∈ (graph.reachFrom roots direction chosen).ids) ↔
      ∃ root ∈ roots, ∃ id ∈ packages, graph.LeadsTowards direction chosen root id := by
  simp only [mem_ids_reachFrom known]
  constructor
  · intro reached
    obtain ⟨id, member, root, isRoot, path⟩ := reached
    exact ⟨root, isRoot, id, member, path⟩
  · intro leads
    obtain ⟨root, isRoot, id, member, path⟩ := leads
    exact ⟨id, member, root, isRoot, path⟩

/--
The two directions are dual: a forward query of some packages reaches one of some others exactly if
a reverse query of these others reaches one of the former.
-/
theorem query_duality
    (graph : PackageGraph)
    (first second : List PackageId)
    (chosen : EdgePredicate)
    (firstKnown : first ⊆ graph.ids)
    (secondKnown : second ⊆ graph.ids) :
    ∃ onwards backwards,
      graph.query first .forward chosen = .ok onwards ∧
        graph.query second .reverse chosen = .ok backwards ∧
          ((∃ id ∈ second, id ∈ onwards.ids) ↔ ∃ id ∈ first, id ∈ backwards.ids) := by
  refine ⟨_, _, query_eq_ok_iff.mpr ⟨firstKnown, rfl⟩, query_eq_ok_iff.mpr ⟨secondKnown, rfl⟩, ?_⟩
  rw [exists_mem_ids_reachFrom_iff firstKnown, exists_mem_ids_reachFrom_iff secondKnown,
    exists_leadsTowards_swap]

/-- Along edges that are not optional, a query of `tool` and `app` reaches `core`, and the reverse
query of `core` reaches `app`, though not `tool`. -/
theorem query_duality_paired :
    [Paired.tool, Paired.app] ⊆ Paired.sample.ids ∧
      [Paired.core] ⊆ Paired.sample.ids ∧
        ∃ onwards backwards,
          Paired.sample.query [Paired.tool, Paired.app] .forward Paired.firm = .ok onwards ∧
            Paired.sample.query [Paired.core] .reverse Paired.firm = .ok backwards ∧
              onwards.ids = [Paired.tool, Paired.app, Paired.lib, Paired.core] ∧
                backwards.ids = [Paired.core, Paired.lib, Paired.app] ∧
                  ((∃ id ∈ [Paired.core], id ∈ onwards.ids) ↔
                    ∃ id ∈ [Paired.tool, Paired.app], id ∈ backwards.ids) := by
  have firstKnown : [Paired.tool, Paired.app] ⊆ Paired.sample.ids := by
    decide
  have secondKnown : [Paired.core] ⊆ Paired.sample.ids := by
    decide
  obtain ⟨onwards, backwards, findsOnwards, findsBackwards, dual⟩ :=
    query_duality Paired.sample [Paired.tool, Paired.app] [Paired.core] Paired.firm firstKnown
      secondKnown
  obtain ⟨-, rfl⟩ := query_eq_ok_iff.mp findsOnwards
  obtain ⟨-, rfl⟩ := query_eq_ok_iff.mp findsBackwards
  exact ⟨firstKnown, secondKnown, _, _, findsOnwards, findsBackwards, by decide +kernel,
    by decide +kernel, dual⟩

end CargoDeps.PackageGraph
