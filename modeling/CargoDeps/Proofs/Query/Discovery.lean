import CargoDeps.Proofs.Digraph.Discovery
import CargoDeps.Proofs.Query.Subgraph

namespace CargoDeps

/-!
# The order in which queries discover packages

A query lists its roots first.  It discovers any other package from the first listed package with a
chosen edge to it, by the first such edge, and lists packages in the order in which it discovers
them: breadth-first, so that the distance from the roots never decreases.
-/

/-! ### Turns and places -/

namespace QueryResult

/-- Whether an edge is chosen and leads to a package, in the direction of the query. -/
def comesBy
    (result : QueryResult)
    (id : PackageId)
    (edge : Edge) : Bool :=
  result.chosen edge && result.direction.farEnd edge = id

/-- The position of the first listed package with a chosen edge to a package. -/
def turnOf
    (result : QueryResult)
    (id : PackageId) : Nat :=
  result.ids.findIdx fun other =>
    (result.graph.edgesTowards result.direction other).any (result.comesBy id)

/-- The position of the first such edge among all edges of that first package. -/
def placeOf
    (result : QueryResult)
    (id : PackageId) : Nat :=
  match result.ids[result.turnOf id]? with
  | some parent =>
      (result.graph.edgesTowards result.direction parent).findIdx (result.comesBy id)
  | none => 0

/-- One package is discovered before another: from an earlier package, or from the same one by an
earlier edge. -/
def DiscoveredBefore
    (result : QueryResult)
    (first second : PackageId) : Prop :=
  result.turnOf first < result.turnOf second ∨
    result.turnOf first = result.turnOf second ∧
      result.placeOf first < result.placeOf second

variable {result : QueryResult} {id : PackageId}

theorem comesBy_iff
    {edge : Edge} :
    result.comesBy id edge = true ↔
      result.chosen edge = true ∧ result.direction.farEnd edge = id := by
  simp [comesBy]

/-- At the place of a package, among the edges of the first package, stands an edge by which the query
comes to it. -/
theorem exists_edge_at_place
    {parent : PackageId}
    (atTurn : result.ids[result.turnOf id]? = some parent)
    (comes :
      ∃ edge ∈ result.graph.edgesTowards result.direction parent,
        result.comesBy id edge = true) :
    ∃ edge,
      (result.graph.edgesTowards result.direction parent)[result.placeOf id]? = some edge ∧
        result.comesBy id edge = true := by
  have bound := List.findIdx_lt_length.mpr comes
  refine ⟨_, ?_, List.findIdx_getElem (w := bound)⟩
  rw [placeOf, atTurn]
  exact List.getElem?_eq_getElem bound

end QueryResult

namespace PackageGraph

variable {graph : PackageGraph} {direction : Direction} {chosen : EdgePredicate}
  {roots : List PackageId} {id : PackageId}

/-- The turns of a query are those of the search behind it. -/
theorem turnOf_reachFrom :
    (graph.reachFrom roots direction chosen).turnOf id =
      Digraph.turnOf (graph.towards direction chosen).next
        (graph.reachFrom roots direction chosen).ids id := by
  rw [QueryResult.turnOf, Digraph.turnOf]
  congr 1
  funext other
  rw [Bool.eq_iff_iff]
  simp [mem_next_towards, mem_edgesTowards, QueryResult.comesBy_iff, reachFrom, and_assoc]

/-- What a search finds before something else, the query discovers before it. -/
theorem discoveredBefore_reachFrom
    {first second : PackageId}
    (before :
      Digraph.FoundBefore (graph.towards direction chosen).next
        (graph.reachFrom roots direction chosen).ids first second) :
    (graph.reachFrom roots direction chosen).DiscoveredBefore first second := by
  rw [Digraph.FoundBefore, ← turnOf_reachFrom, ← turnOf_reachFrom] at before
  refine before.imp_right fun both => ⟨both.1, ?_⟩
  obtain ⟨sameTurn, places⟩ := both
  rw [Digraph.placeOf, Digraph.placeOf, ← turnOf_reachFrom, ← turnOf_reachFrom,
    ← sameTurn] at places
  rw [QueryResult.placeOf, QueryResult.placeOf, ← sameTurn]
  cases atTurn :
      (graph.reachFrom roots direction chosen).ids[
        (graph.reachFrom roots direction chosen).turnOf first]? with
  | none =>
      rw [atTurn] at places
      exact absurd places (Nat.lt_irrefl 0)
  | some parent =>
      simp only [atTurn, next_towards] at places
      exact Sequence.findIdx_lt_of_idxOf_lt places

/-! ### Distances -/

/-- In a direction, a path of some number of chosen edges leads to a package from one of the
roots. -/
inductive ReachedIn
    (graph : PackageGraph)
    (direction : Direction)
    (chosen : EdgePredicate)
    (roots : List PackageId) : Nat → PackageId → Prop
  | root
      {id : PackageId} :
      id ∈ roots →
      ReachedIn graph direction chosen roots 0 id
  | follow
      {count : Nat}
      {edge : Edge} :
      ReachedIn graph direction chosen roots count (direction.nearEnd edge) →
      edge ∈ graph.edges →
      chosen edge = true →
      ReachedIn graph direction chosen roots (count + 1) (direction.farEnd edge)

theorem reachesIn_towards
    {count : Nat} :
    Digraph.ReachesIn (graph.towards direction chosen).next (Sequence.distinct roots) count id ↔
      graph.ReachedIn direction chosen roots count id := by
  constructor
  · intro path
    induction path with
    | start isStart =>
        exact .root (Sequence.mem_distinct.mp isStart)
    | step _ arrow inductionHypothesis =>
        obtain ⟨edge, member, rfl, accepted, rfl⟩ := mem_next_towards.mp arrow
        exact .follow inductionHypothesis member accepted
  · intro path
    induction path with
    | root isRoot =>
        exact .start (Sequence.mem_distinct.mpr isRoot)
    | @follow _ edge _ member accepted inductionHypothesis =>
        exact .step inductionHypothesis (mem_next_towards.mpr ⟨edge, member, rfl, accepted, rfl⟩)

/--
A query lists its roots in the order in which they are first given, and behind them what it
discovers.

Each package discovered stands behind the first listed package with a chosen edge to it, and they
stand in the order in which they are discovered: by the positions of these first packages, and for
one and the same first package by the positions of the first chosen edges among its edges.  The
distance from the roots never decreases along the list.
-/
theorem query_breadthFirst
    (graph : PackageGraph)
    (roots : List PackageId)
    (direction : Direction)
    (chosen : EdgePredicate)
    (known : roots ⊆ graph.ids) :
    ∃ result found,
      graph.query roots direction chosen = .ok result ∧
      result.ids = Sequence.distinct roots ++ found ∧
      (∀ id ∈ found, ∃ parent edge,
        result.ids[result.turnOf id]? = some parent ∧
        (graph.edgesTowards direction parent)[result.placeOf id]? = some edge ∧
        chosen edge = true ∧
        direction.farEnd edge = id ∧
        result.turnOf id < result.ids.idxOf id) ∧
      found.Pairwise result.DiscoveredBefore ∧
      ∃ distance : PackageId → Nat,
        (∀ id ∈ result.ids,
          IsLeast {count | graph.ReachedIn direction chosen roots count id} (distance id)) ∧
        (result.ids.map distance).Pairwise (· ≤ ·) := by
  have sound : (graph.towards direction chosen).Sound := sound_towards
  obtain ⟨found, listed, order⟩ :=
    Digraph.exists_discoveryOrder sound (nodes_towards ▸ known)
  have ids_eq :
      (graph.reachFrom roots direction chosen).ids = Sequence.distinct roots ++ found :=
    listed
  refine ⟨graph.reachFrom roots direction chosen, found, query_eq_ok_iff.mpr ⟨known, rfl⟩, ids_eq,
    ?_, ?_, ?_⟩
  · intro id isFound
    obtain ⟨parent, atTurn, -, leads⟩ := order.exists_turn isFound
    have behind := order.behind id isFound
    rw [← ids_eq, ← turnOf_reachFrom] at atTurn behind
    obtain ⟨edge, member, fromParent, accepted, toId⟩ := mem_next_towards.mp leads
    obtain ⟨first, atPlace, comes⟩ :=
      QueryResult.exists_edge_at_place atTurn
        ⟨edge, mem_edgesTowards.mpr ⟨member, fromParent⟩,
          QueryResult.comesBy_iff.mpr ⟨accepted, toId⟩⟩
    obtain ⟨firstAccepted, firstToId⟩ := QueryResult.comesBy_iff.mp comes
    exact ⟨parent, first, atTurn, atPlace, firstAccepted, firstToId, behind⟩
  · refine order.ordered.imp fun before => discoveredBefore_reachFrom ?_
    exact ids_eq ▸ before
  · obtain ⟨distance, isLeast, ascending⟩ := order.exists_distance
    simp only [reachesIn_towards] at isLeast
    exact ⟨distance, ids_eq ▸ isLeast, ids_eq ▸ ascending⟩

/-- From `app` and `core`, the query discovers `lib` from `app`, by the second of two edges because
the first is optional, before it discovers `tool` from `core`, whose first edge leads to `lib`. -/
theorem query_breadthFirst_paired :
    [Paired.app, Paired.core, Paired.app] ⊆ Paired.sample.ids ∧
      ∃ result found,
        Paired.sample.query [Paired.app, Paired.core, Paired.app] .forward Paired.firm =
          .ok result ∧
        result.ids = [Paired.app, Paired.core, Paired.lib, Paired.tool] ∧
        found = [Paired.lib, Paired.tool] ∧
        (result.turnOf Paired.lib, result.placeOf Paired.lib) = (0, 1) ∧
        (result.turnOf Paired.tool, result.placeOf Paired.tool) = (1, 1) ∧
        (∀ id ∈ found, ∃ parent edge,
          result.ids[result.turnOf id]? = some parent ∧
          (Paired.sample.edgesTowards .forward parent)[result.placeOf id]? = some edge ∧
          Paired.firm edge = true ∧
          Direction.farEnd .forward edge = id ∧
          result.turnOf id < result.ids.idxOf id) ∧
        found.Pairwise result.DiscoveredBefore ∧
        ∃ distance : PackageId → Nat,
          (∀ id ∈ result.ids,
            IsLeast
              {count |
                Paired.sample.ReachedIn .forward Paired.firm
                  [Paired.app, Paired.core, Paired.app] count id}
              (distance id)) ∧
          (result.ids.map distance).Pairwise (· ≤ ·) := by
  have known : [Paired.app, Paired.core, Paired.app] ⊆ Paired.sample.ids := by
    decide
  obtain ⟨result, found, finds, listed, discovered, inOrder, distances⟩ :=
    query_breadthFirst Paired.sample [Paired.app, Paired.core, Paired.app] .forward Paired.firm
      known
  obtain ⟨-, rfl⟩ := query_eq_ok_iff.mp finds
  have ids_eq :
      (Paired.sample.reachFrom [Paired.app, Paired.core, Paired.app] .forward Paired.firm).ids =
        [Paired.app, Paired.core] ++ [Paired.lib, Paired.tool] := by
    decide +kernel
  have starts_eq :
      Sequence.distinct [Paired.app, Paired.core, Paired.app] = [Paired.app, Paired.core] := by
    decide
  obtain rfl : found = [Paired.lib, Paired.tool] :=
    (List.append_cancel_left (starts_eq ▸ ids_eq.symm.trans listed)).symm
  exact ⟨known, _, _, finds, ids_eq, rfl, by decide +kernel, by decide +kernel, discovered, inOrder,
    distances⟩

end PackageGraph

end CargoDeps
