import CargoDeps.Digraph.Basic
import CargoDeps.Proofs.Digraph.Reachability
import CargoDeps.Proofs.Sequence.Distinct

namespace CargoDeps.Digraph

/-!
# Breadth-first search reaches what paths reach

The nodes that a search has left and those that wait are distinct, and every arrow from a node that
was left ends among them.  When nothing waits any more, the nodes found are therefore closed under
arrows.  As many turns as there are nodes are enough for that.
-/

variable {α : Type}

/-- When the first waiting node is left, all nodes found before keep their places. -/
theorem leave_append
    (done waiting later : List α)
    (node : α) :
    done ++ [node] ++ (waiting ++ later) = done ++ node :: waiting ++ later := by
  simp

/-- When the first waiting node is left, what the nodes left by then lead to has been found. -/
theorem subset_leave
    [DecidableEq α]
    {next : α → List α}
    {done waiting : List α}
    {node : α}
    (arrows : ∀ left ∈ done, next left ⊆ done ++ node :: waiting) :
    ∀ left ∈ done ++ [node],
      next left ⊆
        done ++ [node] ++ (waiting ++ Sequence.fresh (done ++ node :: waiting) (next node)) := by
  intro left leftMember target arrow
  rw [leave_append, List.mem_append, Sequence.mem_fresh]
  rcases List.mem_append.mp leftMember with leftBefore | isNode
  · exact Or.inl (arrows left leftBefore arrow)
  · obtain rfl := List.mem_singleton.mp isNode
    by_cases known : target ∈ done ++ left :: waiting
    · exact Or.inl known
    · exact Or.inr ⟨arrow, known⟩

/-- What holds of a search inside a list of nodes, between two steps. -/
structure Searching
    (next : α → List α)
    (nodes : List α)
    (fuel : Nat)
    (done waiting : List α) : Prop where
  nodup : (done ++ waiting).Nodup
  subset : done ++ waiting ⊆ nodes
  arrows : ∀ node ∈ done, next node ⊆ done ++ waiting
  enough : nodes.length ≤ fuel + done.length

namespace Searching

variable {next : α → List α} {nodes : List α} {fuel : Nat} {done waiting : List α}

/-- A search that has not left any node yet. -/
theorem start
    (nodup : waiting.Nodup)
    (subset : waiting ⊆ nodes) :
    Searching next nodes nodes.length [] waiting where
  nodup := nodup
  subset := subset
  arrows := by simp
  enough := Nat.le_add_right _ _

/-- One step: the first waiting node is left, and what it leads to is found. -/
theorem step
    [DecidableEq α]
    {node : α}
    (closed : ∀ node ∈ nodes, next node ⊆ nodes)
    (searching : Searching next nodes (fuel + 1) done (node :: waiting)) :
    Searching next nodes fuel (done ++ [node])
      (waiting ++ Sequence.fresh (done ++ node :: waiting) (next node)) := by
  have nodeMember : node ∈ nodes :=
    searching.subset (by simp)
  refine ⟨?_, ?_, subset_leave searching.arrows, ?_⟩
  · rw [leave_append, List.nodup_append]
    refine ⟨searching.nodup, Sequence.nodup_fresh _ _, ?_⟩
    rintro known knownMember found foundMember rfl
    exact (Sequence.mem_fresh.mp foundMember).2 knownMember
  · rw [leave_append, List.append_subset]
    refine ⟨searching.subset, ?_⟩
    intro found foundMember
    exact closed node nodeMember (Sequence.mem_fresh.mp foundMember).1
  · have enough := searching.enough
    simp only [List.length_append, List.length_singleton]
    omega

/-- Without steps to go, nothing waits. -/
theorem waiting_eq_nil
    (searching : Searching next nodes 0 done waiting) :
    waiting = [] := by
  have bound : (done ++ waiting).length ≤ nodes.length :=
    (searching.nodup.subperm searching.subset).length_le
  have enough := searching.enough
  rw [List.length_append] at bound
  exact List.length_eq_zero_iff.mp (by omega)

end Searching

variable [DecidableEq α]

section

variable {next : α → List α} {nodes : List α}

/-- One turn of a search: the first waiting node is left, and what it leads to waits unless it was
found before.  A search makes no turn only if nothing waits. -/
inductive Turn (next : α → List α) : List α × List α → List α × List α → Prop
  | leave
      (done : List α)
      (node : α)
      (waiting : List α) :
      Turn next (done, node :: waiting)
        (done ++ [node], waiting ++ Sequence.fresh (done ++ node :: waiting) (next node))

/-- A search makes turns until nothing waits. -/
theorem turns_explore
    (closed : ∀ node ∈ nodes, next node ⊆ nodes)
    {fuel : Nat}
    {done waiting : List α}
    (searching : Searching next nodes fuel done waiting) :
    Relation.ReflTransGen (Turn next) (done, waiting) (explore next fuel done waiting, []) := by
  fun_induction explore next fuel done waiting with
  | case1 done waiting =>
      obtain rfl := searching.waiting_eq_nil
      rw [List.append_nil]
  | case2 _ done =>
      exact .refl
  | case3 _ done node waiting found inductionHypothesis =>
      exact .head (.leave done node waiting) (inductionHypothesis (searching.step closed))

theorem Turn.rightUnique : Relator.RightUnique (Turn next) := by
  intro state first second toFirst toSecond
  cases toFirst
  cases toSecond
  rfl

/-- What a search has found when nothing waits any more is settled by where it stands now. -/
theorem turns_unique
    {state : List α × List α}
    {found other : List α}
    (turns : Relation.ReflTransGen (Turn next) state (found, []))
    (others : Relation.ReflTransGen (Turn next) state (other, [])) :
    found = other := by
  have stopped : ∀ left after, ¬Turn next (left, []) after := by
    intro left after turn
    cases turn
  rcases turns.total_of_right_unique Turn.rightUnique others with later | later
  · rcases later.cases_head with same | ⟨after, turn, _⟩
    · exact (Prod.mk.inj same).1
    · exact absurd turn (stopped found after)
  · rcases later.cases_head with same | ⟨after, turn, _⟩
    · exact (Prod.mk.inj same).1.symm
    · exact absurd turn (stopped other after)

/-- A search makes the same turns along other arrows, as long as these agree on what it finds.  A turn
leaves only nodes that are found in the end. -/
theorem turns_congr
    {others : α → List α}
    {state : List α × List α}
    {found : List α}
    (agree : ∀ node ∈ found, next node = others node)
    (turns : Relation.ReflTransGen (Turn next) state (found, [])) :
    state.1 ++ state.2 ⊆ found ∧ Relation.ReflTransGen (Turn others) state (found, []) := by
  induction turns using Relation.ReflTransGen.head_induction_on with
  | refl =>
      exact ⟨by simp, .refl⟩
  | head turn _ inductionHypothesis =>
      obtain ⟨subset, later⟩ := inductionHypothesis
      cases turn with
      | leave done node waiting =>
          simp only [leave_append, List.append_subset] at subset
          have known : done ++ node :: waiting ⊆ found := by
            simpa using subset.1
          have nodeFound : node ∈ found :=
            known (by simp)
          refine ⟨known, .head ?_ later⟩
          rw [agree node nodeFound]
          exact .leave done node waiting

/-- Where all arrows from what was found end there, a search finds nothing else. -/
theorem explore_of_closed
    {fuel : Nat}
    {done waiting : List α}
    (closed : ∀ node ∈ done ++ waiting, next node ⊆ done ++ waiting) :
    explore next fuel done waiting = done ++ waiting := by
  fun_induction explore next fuel done waiting with
  | case1 =>
      rfl
  | case2 _ done =>
      exact (List.append_nil done).symm
  | case3 _ done node waiting found inductionHypothesis =>
      have nothing : found = [] :=
        Sequence.fresh_of_subset (closed node (by simp))
      have same : done ++ [node] ++ (waiting ++ found) = done ++ node :: waiting := by
        rw [leave_append, nothing, List.append_nil]
      rw [inductionHypothesis (same ▸ closed), same]

/-- Nothing that was found is lost. -/
theorem mem_explore_of_mem
    {fuel : Nat}
    {done waiting : List α}
    {known : α}
    (member : known ∈ done ++ waiting) :
    known ∈ explore next fuel done waiting := by
  fun_induction explore next fuel done waiting with
  | case1 done waiting =>
      exact member
  | case2 _ done =>
      simpa using member
  | case3 _ done node waiting found inductionHypothesis =>
      apply inductionHypothesis
      rw [leave_append]
      exact List.mem_append_left found member

/-- Every node found is reached from one that was known before. -/
theorem reaches_of_mem_explore
    {fuel : Nat}
    {done waiting : List α}
    {target : α}
    (member : target ∈ explore next fuel done waiting) :
    ∃ source ∈ done ++ waiting, Reaches next source target := by
  fun_induction explore next fuel done waiting with
  | case1 done waiting =>
      exact ⟨target, member, .refl⟩
  | case2 _ done =>
      exact ⟨target, by simpa using member, .refl⟩
  | case3 _ done node waiting found inductionHypothesis =>
      obtain ⟨source, sourceMember, path⟩ := inductionHypothesis member
      by_cases foundNow : source ∈ found
      · have arrow : source ∈ next node :=
          (Sequence.mem_fresh.mp foundNow).1
        exact ⟨node, by simp, .head arrow path⟩
      · rw [leave_append] at sourceMember
        exact ⟨source, (List.mem_append.mp sourceMember).resolve_right foundNow, path⟩

/-- A search finds each node once. -/
theorem nodup_explore
    (closed : ∀ node ∈ nodes, next node ⊆ nodes)
    {fuel : Nat}
    {done waiting : List α}
    (searching : Searching next nodes fuel done waiting) :
    (explore next fuel done waiting).Nodup := by
  fun_induction explore next fuel done waiting with
  | case1 done waiting =>
      exact searching.nodup
  | case2 _ done =>
      simpa using searching.nodup
  | case3 _ done node waiting found inductionHypothesis =>
      exact inductionHypothesis (searching.step closed)

/-- The nodes found are closed under arrows. -/
theorem next_subset_explore
    (closed : ∀ node ∈ nodes, next node ⊆ nodes)
    {fuel : Nat}
    {done waiting : List α}
    (searching : Searching next nodes fuel done waiting) :
    ∀ node ∈ explore next fuel done waiting, next node ⊆ explore next fuel done waiting := by
  fun_induction explore next fuel done waiting with
  | case1 done waiting =>
      obtain rfl := searching.waiting_eq_nil
      simpa using searching.arrows
  | case2 _ done =>
      simpa using searching.arrows
  | case3 _ done node waiting found inductionHypothesis =>
      exact inductionHypothesis (searching.step closed)

/-- A search from some nodes finds what they reach. -/
theorem mem_explore_iff
    (closed : ∀ node ∈ nodes, next node ⊆ nodes)
    {starts : List α}
    (nodup : starts.Nodup)
    (subset : starts ⊆ nodes)
    {target : α} :
    target ∈ explore next nodes.length [] starts ↔
      ∃ start ∈ starts, Reaches next start target := by
  constructor
  · intro member
    simpa using reaches_of_mem_explore member
  · rintro ⟨start, startMember, path⟩
    refine path.mem_of_closed (next_subset_explore closed (Searching.start nodup subset)) ?_
    exact mem_explore_of_mem (by simpa using startMember)

end

variable {graph : Digraph α}

/-- A search of a graph finds what its starts reach. -/
theorem mem_reach_iff
    (sound : graph.Sound)
    {starts : List α}
    (subset : starts ⊆ graph.nodes)
    {target : α} :
    target ∈ graph.reach starts ↔ ∃ start ∈ starts, Reaches graph.next start target := by
  have distinctSubset : Sequence.distinct starts ⊆ graph.nodes := by
    intro start member
    exact subset (Sequence.mem_distinct.mp member)
  rw [reach, mem_explore_iff sound.next_subset (Sequence.nodup_distinct starts) distinctSubset]
  simp

/-- A search of a graph finds each node once. -/
theorem nodup_reach
    (sound : graph.Sound)
    {starts : List α}
    (subset : starts ⊆ graph.nodes) :
    (graph.reach starts).Nodup := by
  refine nodup_explore sound.next_subset (Searching.start (Sequence.nodup_distinct starts) ?_)
  intro start member
  exact subset (Sequence.mem_distinct.mp member)

/-- A search of a graph makes turns until nothing waits. -/
theorem turns_reach
    (sound : graph.Sound)
    {starts : List α}
    (subset : starts ⊆ graph.nodes) :
    Relation.ReflTransGen (Turn graph.next)
      ([], Sequence.distinct starts) (graph.reach starts, []) := by
  refine turns_explore sound.next_subset (Searching.start (Sequence.nodup_distinct starts) ?_)
  intro start member
  exact subset (Sequence.mem_distinct.mp member)

/-- A search from nodes that are closed under arrows finds them and no others. -/
theorem reach_of_closed
    {starts : List α}
    (nodup : starts.Nodup)
    (closed : ∀ node ∈ starts, graph.next node ⊆ starts) :
    graph.reach starts = starts := by
  rw [reach, Sequence.distinct_of_nodup nodup]
  exact explore_of_closed closed

/-- A search finds the same in another graph, in the same order, if the arrows agree on what it
finds. -/
theorem reach_congr
    {other : Digraph α}
    (sound : graph.Sound)
    (otherSound : other.Sound)
    {starts : List α}
    (subset : starts ⊆ graph.nodes)
    (otherSubset : starts ⊆ other.nodes)
    (agree : ∀ node ∈ graph.reach starts, graph.next node = other.next node) :
    graph.reach starts = other.reach starts :=
  turns_unique (turns_congr agree (turns_reach sound subset)).2 (turns_reach otherSound otherSubset)

/-- A search inside a list of nodes finds what its start reaches inside the list. -/
theorem mem_reachWithin_iff
    (sound : graph.Sound)
    (members : List α)
    {start target : α}
    (startMember : start ∈ graph.nodes) :
    target ∈ graph.reachWithin members start ↔
      Reaches (fun node => (graph.next node).filter (· ∈ members)) start target := by
  have closed :
      ∀ node ∈ graph.nodes, (graph.next node).filter (· ∈ members) ⊆ graph.nodes := by
    intro node member other arrow
    exact sound.next_mem node member other (List.mem_filter.mp arrow).1
  rw [reachWithin, mem_explore_iff closed (by simp) (by simpa using startMember)]
  simp

end CargoDeps.Digraph
