import CargoDeps.Digraph.Walk
import CargoDeps.Proofs.Digraph.DepthFirst
import CargoDeps.Proofs.Digraph.ShortestPath

namespace CargoDeps.Digraph

/-!
# Closed walks pass every node

In a strongly connected graph every path that the walk asks for exists, so the walk passes all nodes
that a depth-first search enters, and these are all nodes.  Where each node leads to one node only,
a walk can be left only at its end: a path from there to a new node is new altogether, and a path
back to the start has nothing left to pass.  No node is then passed twice.
-/

variable {α : Type}

/-- Every node reaches every node. -/
def Connected (graph : Digraph α) : Prop :=
  ∀ first ∈ graph.nodes, ∀ second ∈ graph.nodes, Reaches graph.next first second

/-- Each node leads to one node at most. -/
def Deterministic (graph : Digraph α) : Prop :=
  ∀ node ∈ graph.nodes, ∀ first second,
    Arrow graph.next node first →
    Arrow graph.next node second →
    first = second

theorem IsPath.exists_cons
    {next : α → List α}
    {source target : α}
    {path : List α}
    (isPath : IsPath next source target path) :
    ∃ rest, path = source :: rest := by
  obtain ⟨rest, shape⟩ := List.head?_eq_some_iff.mp isPath.head
  exact ⟨rest, shape⟩

theorem IsPath.subset
    {graph : Digraph α}
    (sound : graph.Sound)
    {source target : α}
    {path : List α}
    (isPath : IsPath graph.next source target path)
    (member : source ∈ graph.nodes) :
    path ⊆ graph.nodes := by
  obtain ⟨rest, rfl⟩ := isPath.exists_cons
  refine isPath.chain.induction (· ∈ graph.nodes) _ ?_ (fun _ => member)
  intro node other arrow nodeMember
  exact sound.next_mem node nodeMember other arrow

/-- In a graph where each node leads to one node at most, a walk is left only at its end. -/
theorem Deterministic.mem_of_arrow
    {graph : Digraph α}
    (deterministic : graph.Deterministic)
    {walk : List α}
    {last node target : α}
    (subset : walk ⊆ graph.nodes)
    (chain : walk.IsChain (Arrow graph.next))
    (isLast : walk.getLast? = some last)
    (member : node ∈ walk)
    (notLast : node ≠ last)
    (arrow : Arrow graph.next node target) :
    target ∈ walk := by
  obtain ⟨earlier, later, rfl⟩ := List.append_of_mem member
  cases later with
  | nil =>
      have same : node = last := by simpa using isLast
      exact absurd same notLast
  | cons following rest =>
      have step : Arrow graph.next node following :=
        (List.isChain_cons_cons.mp chain.right_of_append).1
      have same : target = following :=
        deterministic node (subset member) target following arrow step
      simp [same]

/-- So a path that starts on the walk and avoids its end stays on the walk. -/
theorem Deterministic.subset_of_chain
    {graph : Digraph α}
    (deterministic : graph.Deterministic)
    {walk path : List α}
    {last node : α}
    (subset : walk ⊆ graph.nodes)
    (chain : walk.IsChain (Arrow graph.next))
    (isLast : walk.getLast? = some last)
    (member : node ∈ walk)
    (pathChain : (node :: path).IsChain (Arrow graph.next))
    (avoids : last ∉ node :: path) :
    node :: path ⊆ walk := by
  induction path generalizing node with
  | nil =>
      simpa using member
  | cons following rest inductionHypothesis =>
      obtain ⟨arrow, restChain⟩ := List.isChain_cons_cons.mp pathChain
      obtain ⟨notNode, notLater⟩ := List.ne_and_not_mem_of_not_mem_cons avoids
      have followingMember : following ∈ walk :=
        deterministic.mem_of_arrow subset chain isLast member notNode.symm arrow
      rw [List.cons_subset]
      exact ⟨member, inductionHypothesis followingMember restChain notLater⟩

/-- A walk from a start to a last node, which is the start only if the walk has not moved. -/
structure Walking
    (graph : Digraph α)
    (start : α)
    (walk : List α)
    (last : α) : Prop where
  head : walk.head? = some start
  last_eq : walk.getLast? = some last
  chain : walk.IsChain (Arrow graph.next)
  subset : walk ⊆ graph.nodes
  eq_start : last = start → walk = [start]
  nodup : graph.Deterministic → walk.Nodup

namespace Walking

variable {graph : Digraph α} {start last : α} {walk : List α}

/-- The walk that has not moved. -/
theorem stand
    (member : start ∈ graph.nodes) :
    Walking graph start [start] start where
  head := rfl
  last_eq := rfl
  chain := .singleton start
  subset := by simpa using member
  eq_start := fun _ => rfl
  nodup := fun _ => by simp

theorem last_mem
    (walking : Walking graph start walk last) :
    last ∈ walk :=
  List.mem_of_getLast? walking.last_eq

theorem start_mem
    (walking : Walking graph start walk last) :
    start ∈ walk :=
  List.mem_of_head? walking.head

/-- A path that leaves the walk shares nothing with it but the node where it leaves. -/
theorem not_mem_of_path
    (walking : Walking graph start walk last)
    (deterministic : graph.Deterministic)
    {node : α}
    {rest : List α}
    (isPath : IsPath graph.next last node (last :: rest))
    (fresh : node ∉ walk) :
    ∀ passed ∈ rest, passed ∉ walk := by
  intro passed passedMember onWalk
  obtain ⟨earlier, later, rfl⟩ := List.append_of_mem passedMember
  have laterChain : (passed :: later).IsChain (Arrow graph.next) := by
    have chain := isPath.chain
    rw [← List.cons_append] at chain
    exact chain.right_of_append
  have avoids : last ∉ passed :: later := by
    intro again
    exact (List.nodup_cons.mp isPath.nodup).1 (List.mem_append_right _ again)
  have staysOnWalk : passed :: later ⊆ walk :=
    deterministic.subset_of_chain walking.subset walking.chain walking.last_eq onWalk laterChain
      avoids
  have isLast : (passed :: later).getLast? = some node := by
    have whole := isPath.last
    rw [← List.cons_append, List.getLast?_append] at whole
    simpa using whole
  exact fresh (staysOnWalk (List.mem_of_getLast? isLast))

/-- A path from the end of the walk continues it. -/
theorem chain_append
    (walking : Walking graph start walk last)
    {node : α}
    {rest : List α}
    (isPath : IsPath graph.next last node (last :: rest)) :
    (walk ++ rest).IsChain (Arrow graph.next) := by
  refine walking.chain.append isPath.chain.tail ?_
  intro reached isReached following isFollowing
  rw [walking.last_eq] at isReached
  obtain rfl := Option.mem_some_iff.mp isReached
  exact isPath.chain.rel_head? isFollowing

/-- The walk goes on along a path to a node that it has not passed. -/
theorem extend
    (sound : graph.Sound)
    (walking : Walking graph start walk last)
    {node : α}
    {path : List α}
    (isPath : IsPath graph.next last node path)
    (fresh : node ∉ walk) :
    Walking graph start (walk ++ path.tail) node := by
  have pathSubset : path ⊆ graph.nodes :=
    isPath.subset sound (walking.subset walking.last_mem)
  obtain ⟨rest, rfl⟩ := isPath.exists_cons
  have restLast : rest.getLast? = some node := by
    cases rest with
    | nil =>
        obtain rfl : last = node := by simpa using isPath.last
        exact absurd walking.last_mem fresh
    | cons following later =>
        simpa using isPath.last
  refine ⟨?_, ?_, ?_, ?_, ?_, ?_⟩
  · simp [List.head?_append, walking.head]
  · simp [List.getLast?_append, restLast]
  · exact walking.chain_append isPath
  · rw [List.append_subset]
    exact ⟨walking.subset, List.Subset.trans (List.subset_cons_self _ _) pathSubset⟩
  · rintro rfl
    exact absurd walking.start_mem fresh
  · intro deterministic
    rw [List.nodup_append]
    refine ⟨walking.nodup deterministic, (List.nodup_cons.mp isPath.nodup).2, ?_⟩
    rintro onWalk walkMember passed passedMember rfl
    exact walking.not_mem_of_path deterministic isPath fresh onWalk passedMember walkMember

end Walking

/-- A walk from a start through all nodes of a graph, from the last of which an arrow leads back to
the start. -/
structure IsClosedWalk
    (graph : Digraph α)
    (start : α)
    (walk : List α) : Prop where
  head : walk.head? = some start
  chain : (walk ++ [start]).IsChain (Arrow graph.next)
  mem_iff : ∀ node, node ∈ walk ↔ node ∈ graph.nodes
  nodup : graph.Deterministic → walk.Nodup

/-- A walk that has not moved is closed if its node is the only one and leads somewhere. -/
theorem Walking.isClosedWalk_of_eq
    {graph : Digraph α}
    (sound : graph.Sound)
    {start : α}
    {walk : List α}
    (walking : Walking graph start walk start)
    (covers : graph.nodes ⊆ walk)
    (leaves : ∃ target, Arrow graph.next start target) :
    IsClosedWalk graph start walk := by
  obtain rfl := walking.eq_start rfl
  obtain ⟨target, arrow⟩ := leaves
  have startMember : start ∈ graph.nodes :=
    walking.subset walking.start_mem
  obtain rfl : target = start := by
    simpa using covers (sound.next_mem start startMember target arrow)
  refine ⟨walking.head, ?_, ?_, walking.nodup⟩
  · simpa using arrow
  · intro node
    exact ⟨fun member => walking.subset member, fun member => covers member⟩

/-- Where each node leads to one node at most, a path back to the start passes no other node: the
first of these would be on the walk, and the walk would lead from it to the start again. -/
theorem Walking.eq_nil_of_path_back
    {graph : Digraph α}
    {start last : α}
    {walk between : List α}
    (walking : Walking graph start walk last)
    (deterministic : graph.Deterministic)
    (covers : graph.nodes ⊆ walk)
    (subset : last :: (between ++ [start]) ⊆ graph.nodes)
    (isPath : IsPath graph.next last start (last :: (between ++ [start]))) :
    between = [] := by
  obtain ⟨lastOnce, pathNodup⟩ := List.nodup_cons.mp isPath.nodup
  have walkNodup := walking.nodup deterministic
  have walkSubset := walking.subset
  have walkChain := walking.chain
  have walkHead := walking.head
  have walkLast := walking.last_eq
  cases between with
  | nil =>
      rfl
  | cons passed later =>
      have notPassed : start ≠ passed := by
        rintro rfl
        simp at pathNodup
      obtain ⟨earlier, onwards, rfl⟩ := List.append_of_mem (covers (subset (by simp) : passed ∈ _))
      have onwardsLast : (passed :: onwards).getLast? = some last := by
        rw [List.getLast?_append] at walkLast
        simpa using walkLast
      have stays : passed :: (later ++ [start]) ⊆ passed :: onwards :=
        deterministic.subset_of_chain (List.append_subset.mp walkSubset).2
          walkChain.right_of_append onwardsLast (by simp) isPath.chain.tail lastOnce
      have startAgain : start ∈ passed :: onwards :=
        stays (by simp)
      cases earlier with
      | nil =>
          have same : passed = start := by simpa using walkHead
          exact absurd same.symm notPassed
      | cons first others =>
          obtain rfl : first = start := by simpa using walkHead
          exact absurd (List.mem_append_right others startAgain)
            (List.nodup_cons.mp walkNodup).1

/-- A walk that has moved is closed by a path back to its start. -/
theorem Walking.isClosedWalk_append
    {graph : Digraph α}
    (sound : graph.Sound)
    {start last : α}
    {walk path : List α}
    (walking : Walking graph start walk last)
    (covers : graph.nodes ⊆ walk)
    (moved : last ≠ start)
    (isPath : IsPath graph.next last start path) :
    IsClosedWalk graph start (walk ++ path.tail.dropLast) := by
  have pathSubset : path ⊆ graph.nodes :=
    isPath.subset sound (walking.subset walking.last_mem)
  obtain ⟨rest, rfl⟩ := isPath.exists_cons
  rcases List.eq_nil_or_concat' rest with rfl | ⟨between, final, rfl⟩
  · have same : last = start := by simpa using isPath.last
    exact absurd same moved
  · obtain rfl : final = start := by
      have isLast := isPath.last
      rw [← List.cons_append, List.getLast?_append] at isLast
      simpa using isLast
    have shape : (last :: (between ++ [final])).tail.dropLast = between := by
      simp
    rw [shape]
    refine ⟨?_, ?_, ?_, ?_⟩
    · simp [List.head?_append, walking.head]
    · rw [List.append_assoc]
      exact walking.chain_append isPath
    · intro node
      constructor
      · intro member
        rcases List.mem_append.mp member with onWalk | onPath
        · exact walking.subset onWalk
        · exact pathSubset (by simp [onPath])
      · intro member
        exact List.mem_append_left _ (covers member)
    · intro deterministic
      obtain rfl := walking.eq_nil_of_path_back deterministic covers pathSubset isPath
      simpa using walking.nodup deterministic

variable [DecidableEq α] {graph : Digraph α}

/-- In a connected graph a walk can be extended to pass any nodes. -/
theorem exists_extendWalk
    (sound : graph.Sound)
    (connected : graph.Connected)
    {start last : α}
    {walk nodes : List α}
    (walking : Walking graph start walk last)
    (subset : nodes ⊆ graph.nodes) :
    ∃ longer final,
      graph.extendWalk walk last nodes = some (longer, final) ∧
        Walking graph start longer final ∧
          walk ⊆ longer ∧ nodes ⊆ longer := by
  induction nodes generalizing walk last with
  | nil =>
      exact ⟨walk, last, rfl, walking, List.Subset.refl _, List.nil_subset _⟩
  | cons node rest inductionHypothesis =>
      obtain ⟨nodeMember, restSubset⟩ := List.cons_subset.mp subset
      unfold extendWalk
      split
      · next passed =>
          obtain ⟨longer, final, extended, longerWalking, kept, restPassed⟩ :=
            inductionHypothesis walking restSubset
          exact ⟨longer, final, extended, longerWalking, kept,
            List.cons_subset.mpr ⟨kept passed, restPassed⟩⟩
      · next fresh =>
          have lastMember : last ∈ graph.nodes :=
            walking.subset walking.last_mem
          obtain ⟨path, found, isPath⟩ :=
            exists_shortestPath? sound lastMember nodeMember
              (connected last lastMember node nodeMember)
          have nodePassed : node ∈ walk ++ path.tail :=
            (walking.extend sound isPath fresh).last_mem
          obtain ⟨longer, final, extended, longerWalking, kept, restPassed⟩ :=
            inductionHypothesis (walking.extend sound isPath fresh) restSubset
          rw [found]
          exact ⟨longer, final, extended, longerWalking,
            List.Subset.trans (List.subset_append_left _ _) kept,
            List.cons_subset.mpr ⟨kept nodePassed, restPassed⟩⟩

/-- In a connected graph there is a closed walk from every node that leads somewhere. -/
theorem exists_closedWalk?
    (sound : graph.Sound)
    (connected : graph.Connected)
    {start : α}
    (member : start ∈ graph.nodes)
    (leaves : ∃ target, Arrow graph.next start target) :
    ∃ walk, graph.closedWalk? start = some walk ∧ IsClosedWalk graph start walk := by
  have preorderSubset : graph.preorder start ⊆ graph.nodes := by
    intro node entered
    exact ((mem_preorder_iff sound member).mp entered).mem_of_closed sound.next_subset member
  obtain ⟨walk, last, extended, walking, -, passed⟩ :=
    exists_extendWalk sound connected (.stand member) preorderSubset
  have covers : graph.nodes ⊆ walk := by
    intro node nodeMember
    exact passed ((mem_preorder_iff sound member).mpr (connected start member node nodeMember))
  have lastMember : last ∈ graph.nodes :=
    walking.subset walking.last_mem
  obtain ⟨back, found, isPath⟩ :=
    exists_shortestPath? sound lastMember member (connected last lastMember start member)
  refine ⟨walk ++ back.tail.dropLast, by simp [closedWalk?, extended, found], ?_⟩
  by_cases moved : last = start
  · subst moved
    have noBack : back = [last] := by
      simpa [shortestPath?] using found.symm
    simpa [noBack] using walking.isClosedWalk_of_eq sound covers leaves
  · exact walking.isClosedWalk_append sound covers moved isPath

end CargoDeps.Digraph
