import CargoDeps.Digraph.Basic
import CargoDeps.Proofs.Digraph.Reachability

namespace CargoDeps.Digraph

/-!
# The search that gives up at the first cycle

The nodes that have been left form a list in which each node stands behind all that it leads to.  No
such node lies on a cycle.  A search therefore either ends with a list of this kind, or finds an
arrow back to its path; the part of the path that the arrow closes is a cycle.
-/

variable {α : Type}

/-- Each node of a list stands once, behind all that it leads to. -/
structure Finished
    (next : α → List α)
    (done : List α) : Prop where
  nodup : done.Nodup
  next_subset :
    ∀ {earlier later : List α} {node : α},
      done = earlier ++ node :: later →
      next node ⊆ earlier

/-- Distinct nodes, each with an arrow to the next one and the last with an arrow to the first. -/
structure IsCycle
    (arrow : α → α → Prop)
    (cycle : List α) : Prop where
  ne_nil : cycle ≠ []
  nodup : cycle.Nodup
  chain : cycle.IsChain arrow
  closing :
    ∀ last ∈ cycle.getLast?,
      ∀ first ∈ cycle.head?,
        arrow last first

namespace Finished

variable {next : α → List α} {done : List α}

theorem nil : Finished next [] :=
  ⟨List.nodup_nil, by simp⟩

/-- One more node can be left when all that it leads to has been left. -/
theorem snoc
    {node : α}
    (finished : Finished next done)
    (fresh : node ∉ done)
    (arrows : next node ⊆ done) :
    Finished next (done ++ [node]) where
  nodup := by
    rw [← List.concat_eq_append]
    exact List.Nodup.concat fresh finished.nodup
  next_subset := by
    intro earlier later left shape
    rcases List.eq_nil_or_concat later with rfl | ⟨laterInit, last, rfl⟩
    · obtain ⟨rfl, isNode⟩ := List.append_inj' shape rfl
      obtain rfl := List.singleton_inj.mp isNode
      exact arrows
    · have regrouped : done ++ [node] = (earlier ++ left :: laterInit) ++ [last] := by
        simpa using shape
      obtain ⟨before, -⟩ := List.append_inj' regrouped rfl
      exact finished.next_subset before

theorem closed
    (finished : Finished next done) :
    ∀ node ∈ done, next node ⊆ done := by
  intro node member
  obtain ⟨earlier, later, shape⟩ := List.append_of_mem member
  rw [shape]
  exact List.Subset.trans (finished.next_subset shape) (List.subset_append_left _ _)

/-- A node stands behind all that it reaches along at least one arrow. -/
theorem mem_of_transGen
    (finished : Finished next done)
    {earlier later : List α}
    {source target : α}
    (shape : done = earlier ++ source :: later)
    (path : Relation.TransGen (Arrow next) source target) :
    target ∈ earlier := by
  induction path with
  | single arrow =>
      exact finished.next_subset shape arrow
  | @tail middle last _ arrow inductionHypothesis =>
      obtain ⟨first, between, earlierShape⟩ := List.append_of_mem inductionHypothesis
      have middleShape : done = first ++ middle :: (between ++ source :: later) := by
        simp [shape, earlierShape]
      have lastMember : last ∈ first :=
        finished.next_subset middleShape arrow
      simp [earlierShape, lastMember]

/-- No node of the list lies on a cycle. -/
theorem not_transGen_self
    (finished : Finished next done)
    {node : α}
    (member : node ∈ done) :
    ¬ Relation.TransGen (Arrow next) node node := by
  intro path
  obtain ⟨earlier, later, shape⟩ := List.append_of_mem member
  have before : node ∈ earlier :=
    finished.mem_of_transGen shape path
  have distinct := finished.nodup
  rw [shape, List.nodup_append] at distinct
  exact distinct.2.2 node before node (by simp) rfl

/-- What a node leads to stands before it. -/
theorem sublist_of_arrow
    (finished : Finished next done)
    {source target : α}
    (member : source ∈ done)
    (arrow : Arrow next source target) :
    [target, source].Sublist done := by
  obtain ⟨earlier, later, shape⟩ := List.append_of_mem member
  have before : target ∈ earlier :=
    finished.next_subset shape arrow
  rw [shape]
  exact (List.singleton_sublist.mpr before).append (List.singleton_sublist.mpr (by simp))

end Finished

namespace IsCycle

variable {arrow : α → α → Prop} {cycle : List α}

/-- The last node of a cycle leads to its first. -/
theorem back
    (isCycle : IsCycle arrow cycle) :
    arrow (cycle.getLast isCycle.ne_nil) (cycle.head isCycle.ne_nil) :=
  isCycle.closing _ (List.getLast?_eq_getLast_of_ne_nil _) _ (List.head?_eq_some_head _)

/-- The nodes of a cycle reach each other. -/
theorem reaches
    {source target : α}
    (isCycle : IsCycle arrow cycle)
    (sourceMember : source ∈ cycle)
    (targetMember : target ∈ cycle) :
    Relation.ReflTransGen arrow source target := by
  have toLast :
      ∀ node ∈ cycle, Relation.ReflTransGen arrow node (cycle.getLast isCycle.ne_nil) :=
    isCycle.chain.backwards_induction _ cycle
      (fun _ _ step path => .head step path) (fun _ => .refl)
  have fromFirst :
      ∀ node ∈ cycle, Relation.ReflTransGen arrow (cycle.head isCycle.ne_nil) node :=
    isCycle.chain.induction _ cycle
      (fun _ _ step path => path.tail step) (fun _ => .refl)
  exact (toLast source sourceMember).trans (.head isCycle.back (fromFirst target targetMember))

/-- The nodes of a cycle reach themselves along at least one arrow. -/
theorem transGen
    {node : α}
    (isCycle : IsCycle arrow cycle)
    (member : node ∈ cycle) :
    Relation.TransGen arrow node node := by
  have toLast := isCycle.reaches member (List.getLast_mem isCycle.ne_nil)
  have fromFirst := isCycle.reaches (List.head_mem isCycle.ne_nil) member
  exact .trans_right toLast (.head' isCycle.back fromFirst)

theorem exists_transGen
    (isCycle : IsCycle arrow cycle) :
    ∃ node ∈ cycle, Relation.TransGen arrow node node :=
  ⟨_, List.head_mem isCycle.ne_nil, isCycle.transGen (List.head_mem isCycle.ne_nil)⟩

/-- A cycle is one of other arrows too if these join its nodes. -/
theorem imp
    {other : α → α → Prop}
    (isCycle : IsCycle arrow cycle)
    (arrows :
      ∀ source ∈ cycle, ∀ target ∈ cycle, arrow source target → other source target) :
    IsCycle other cycle where
  ne_nil := isCycle.ne_nil
  nodup := isCycle.nodup
  chain :=
    isCycle.chain.imp_of_mem_imp fun source target sourceMember targetMember =>
      arrows source sourceMember target targetMember
  closing := by
    intro last isLast first isFirst
    exact arrows last (List.mem_of_getLast? isLast) first (List.mem_of_head? isFirst)
      (isCycle.closing last isLast first isFirst)

end IsCycle

/-- What holds of a search that stands at the end of a path. -/
structure Standing
    (next : α → List α)
    (nodes path done : List α) : Prop where
  finished : Finished next done
  nodup : path.Nodup
  chain : path.IsChain (Arrow next)
  subset : path ⊆ nodes
  apart : ∀ node ∈ path, node ∉ done

/-- What a search with a path has found behind some nodes if it meets no cycle. -/
structure Finishes
    (next : α → List α)
    (path sources done after : List α) : Prop where
  finished : Finished next after
  kept : done ⊆ after
  sources_subset : sources ⊆ after
  new_node : ∀ node ∈ after, node ∈ done ∨ ∃ source ∈ sources, Reaches next source node
  apart : ∀ node ∈ path, node ∉ after

/-- What such a search has found if it meets a cycle. -/
structure Loops
    (next : α → List α)
    (path sources cycle : List α) : Prop where
  isCycle : IsCycle (Arrow next) cycle
  known : ∀ node ∈ cycle, node ∈ path ∨ ∃ source ∈ sources, Reaches next source node

/-- What such a search gives. -/
def Outcome
    (next : α → List α)
    (path sources done : List α) :
    Except (List α) (List α) → Prop
  | .ok after => Finishes next path sources done after
  | .error cycle => Loops next path sources cycle

namespace Standing

variable {next : α → List α} {nodes path done : List α}

/-- The path can be continued to a new node. -/
theorem push
    {node : α}
    (standing : Standing next nodes path done)
    (arrow : ∀ last ∈ path.getLast?, Arrow next last node)
    (member : node ∈ nodes)
    (offPath : node ∉ path)
    (fresh : node ∉ done) :
    Standing next nodes (path ++ [node]) done where
  finished := standing.finished
  nodup := by
    rw [← List.concat_eq_append]
    exact List.Nodup.concat offPath standing.nodup
  chain := standing.chain.append (.singleton node) (by simpa using arrow)
  subset := by
    rw [List.append_subset]
    exact ⟨standing.subset, by simpa using member⟩
  apart := by
    intro known knownMember
    rcases List.mem_append.mp knownMember with onPath | isNode
    · exact standing.apart known onPath
    · obtain rfl := List.mem_singleton.mp isNode
      exact fresh

/-- The search stands where it stood when it comes back. -/
theorem back
    {sources after : List α}
    (standing : Standing next nodes path done)
    (finishes : Finishes next path sources done after) :
    Standing next nodes path after where
  finished := finishes.finished
  nodup := standing.nodup
  chain := standing.chain
  subset := standing.subset
  apart := finishes.apart

/-- A path through distinct nodes is no longer than the list of nodes. -/
theorem length_le
    (standing : Standing next nodes path done) :
    path.length ≤ nodes.length :=
  (standing.nodup.subperm standing.subset).length_le

/-- An arrow from the end of the path back to it closes a cycle. -/
theorem isCycle
    [DecidableEq α]
    {node : α}
    (standing : Standing next nodes path done)
    (arrow : ∀ last ∈ path.getLast?, Arrow next last node)
    (onPath : node ∈ path) :
    IsCycle (Arrow next) (path.dropWhile (· ≠ node)) := by
  obtain ⟨before, after, rfl, notBefore⟩ := List.eq_append_cons_of_mem onPath
  have dropped : (before ++ node :: after).dropWhile (· ≠ node) = node :: after := by
    rw [List.dropWhile_append_of_pos]
    · simp
    · intro known member
      simpa using fun same : known = node => notBefore (same ▸ member)
  rw [dropped]
  refine ⟨List.cons_ne_nil _ _, ?_, standing.chain.right_of_append, ?_⟩
  · exact (List.nodup_append.mp standing.nodup).2.1
  · intro last isLast first isFirst
    obtain rfl : node = first := by simpa using isFirst
    refine arrow last ?_
    simpa [List.getLast?_append] using isLast

end Standing

namespace Finishes

variable {next : α → List α} {path done : List α}

theorem nil
    (finished : Finished next done)
    (apart : ∀ node ∈ path, node ∉ done) :
    Finishes next path [] done done where
  finished := finished
  kept := List.Subset.refl _
  sources_subset := List.nil_subset _
  new_node := fun _ member => Or.inl member
  apart := apart

theorem known
    {node : α}
    (finished : Finished next done)
    (apart : ∀ other ∈ path, other ∉ done)
    (member : node ∈ done) :
    Finishes next path [node] done done where
  finished := finished
  kept := List.Subset.refl _
  sources_subset := by simpa using member
  new_node := fun _ known => Or.inl known
  apart := apart

theorem cons
    {source : α}
    {rest between after : List α}
    (first : Finishes next path [source] done between)
    (later : Finishes next path rest between after) :
    Finishes next path (source :: rest) done after where
  finished := later.finished
  kept := List.Subset.trans first.kept later.kept
  sources_subset := by
    rw [List.cons_subset]
    exact ⟨later.kept (first.sources_subset (by simp)), later.sources_subset⟩
  new_node := by
    intro node member
    rcases later.new_node node member with inBetween | ⟨start, startMember, reached⟩
    · rcases first.new_node node inBetween with before | ⟨start, isSource, reached⟩
      · exact Or.inl before
      · obtain rfl := List.mem_singleton.mp isSource
        exact Or.inr ⟨start, by simp, reached⟩
    · exact Or.inr ⟨start, List.mem_cons_of_mem _ startMember, reached⟩
  apart := later.apart

/-- A node is left when the search behind all that it leads to has ended. -/
theorem leave
    {node : α}
    {after : List α}
    (offPath : node ∉ path)
    (finishes : Finishes next (path ++ [node]) (next node) done after) :
    Finishes next path [node] done (after ++ [node]) := by
  have fresh : node ∉ after :=
    finishes.apart node (by simp)
  refine ⟨finishes.finished.snoc fresh finishes.sources_subset, ?_, by simp, ?_, ?_⟩
  · exact List.Subset.trans finishes.kept (List.subset_append_left _ _)
  · intro found member
    rcases List.mem_append.mp member with inside | isNode
    · rcases finishes.new_node found inside with before | ⟨start, arrow, reached⟩
      · exact Or.inl before
      · exact Or.inr ⟨node, by simp, .head arrow reached⟩
    · obtain rfl := List.mem_singleton.mp isNode
      exact Or.inr ⟨found, by simp, .refl⟩
  · intro known onPath
    have notInside : known ∉ after :=
      finishes.apart known (List.mem_append_left _ onPath)
    have notNode : known ≠ node := by
      rintro rfl
      exact offPath onPath
    simp [notInside, notNode]

end Finishes

/-- A cycle behind what a node leads to is a cycle behind the node. -/
theorem Loops.leave
    {next : α → List α}
    {path cycle : List α}
    {node : α}
    (loops : Loops next (path ++ [node]) (next node) cycle) :
    Loops next path [node] cycle where
  isCycle := loops.isCycle
  known := by
    intro found member
    rcases loops.known found member with onPath | ⟨start, arrow, reached⟩
    · rcases List.mem_append.mp onPath with before | isNode
      · exact Or.inl before
      · obtain rfl := List.mem_singleton.mp isNode
        exact Or.inr ⟨found, by simp, .refl⟩
    · exact Or.inr ⟨node, by simp, .head arrow reached⟩

theorem Loops.mono
    {next : α → List α}
    {path sources others cycle : List α}
    (loops : Loops next path sources cycle)
    (subset : sources ⊆ others) :
    Loops next path others cycle where
  isCycle := loops.isCycle
  known := by
    intro found member
    rcases loops.known found member with onPath | ⟨start, startMember, reached⟩
    · exact Or.inl onPath
    · exact Or.inr ⟨start, subset startMember, reached⟩

variable [DecidableEq α]

/-- Look behind a node that an arrow from the end of the path leads to. -/
def followArrow
    (next : α → List α)
    (fuel : Nat)
    (path done : List α)
    (node : α) : Except (List α) (List α) :=
  if node ∈ path then
    .error (path.dropWhile (· ≠ node))
  else if node ∈ done then
    .ok done
  else
    finishFrom next fuel path done node

/-- A search from a node follows its arrows one by one. -/
theorem finishFrom_succ
    (next : α → List α)
    (fuel : Nat)
    (path done : List α)
    (node : α) :
    finishFrom next (fuel + 1) path done node =
      ((next node).foldlM (followArrow next fuel (path ++ [node])) done).map (· ++ [node]) :=
  rfl

section

variable {next : α → List α} {nodes path : List α} {fuel : Nat}

/-- If following one arrow does what it should, so does following several. -/
theorem outcome_foldlM
    (follow :
      ∀ {done : List α} {node : α},
        Standing next nodes path done →
        node ∈ nodes →
        (∀ last ∈ path.getLast?, Arrow next last node) →
        Outcome next path [node] done (followArrow next fuel path done node))
    {done sources : List α}
    (standing : Standing next nodes path done)
    (subset : sources ⊆ nodes)
    (arrows : ∀ node ∈ sources, ∀ last ∈ path.getLast?, Arrow next last node) :
    Outcome next path sources done (sources.foldlM (followArrow next fuel path) done) := by
  induction sources generalizing done with
  | nil =>
      exact .nil standing.finished standing.apart
  | cons source rest inductionHypothesis =>
      obtain ⟨sourceMember, restSubset⟩ := List.cons_subset.mp subset
      have first := follow standing sourceMember (arrows source (by simp))
      rw [List.foldlM_cons]
      cases result : followArrow next fuel path done source with
      | error cycle =>
          rw [result] at first
          exact Loops.mono first (by simp)
      | ok between =>
          rw [result] at first
          have later :=
            inductionHypothesis (standing.back first) restSubset
              (fun node member => arrows node (List.mem_cons_of_mem _ member))
          change Outcome next path (source :: rest) done
            (rest.foldlM (followArrow next fuel path) between)
          cases restResult : rest.foldlM (followArrow next fuel path) between with
          | error cycle =>
              rw [restResult] at later
              exact Loops.mono later (List.subset_cons_self _ _)
          | ok after =>
              rw [restResult] at later
              exact Finishes.cons first later

/-- If searches from new nodes do what they should, so does following an arrow. -/
theorem outcome_followArrow
    (search :
      ∀ {done : List α} {node : α},
        Standing next nodes path done →
        node ∈ nodes →
        (∀ last ∈ path.getLast?, Arrow next last node) →
        node ∉ path →
        node ∉ done →
        Outcome next path [node] done (finishFrom next fuel path done node))
    {done : List α}
    {node : α}
    (standing : Standing next nodes path done)
    (member : node ∈ nodes)
    (arrow : ∀ last ∈ path.getLast?, Arrow next last node) :
    Outcome next path [node] done (followArrow next fuel path done node) := by
  unfold followArrow
  split
  · next onPath =>
      refine ⟨standing.isCycle arrow onPath, ?_⟩
      intro known knownMember
      exact Or.inl ((List.dropWhile_sublist _).subset knownMember)
  · next offPath =>
      split
      · next left =>
          exact .known standing.finished standing.apart left
      · next fresh =>
          exact search standing member arrow offPath fresh

end

section

variable {next : α → List α} {nodes : List α}

/-- A search from a new node ends with everything behind it left, or with a cycle. -/
theorem outcome_finishFrom
    (closed : ∀ node ∈ nodes, next node ⊆ nodes)
    {fuel : Nat}
    {path done : List α}
    {node : α}
    (enough : nodes.length ≤ fuel + path.length)
    (standing : Standing next nodes path done)
    (member : node ∈ nodes)
    (arrow : ∀ last ∈ path.getLast?, Arrow next last node)
    (offPath : node ∉ path)
    (fresh : node ∉ done) :
    Outcome next path [node] done (finishFrom next fuel path done node) := by
  induction fuel generalizing path done node with
  | zero =>
      -- The path and its new node would be longer than the list of nodes.
      have bound := (standing.push arrow member offPath fresh).length_le
      simp only [List.length_append, List.length_singleton] at bound
      omega
  | succ fuel inductionHypothesis =>
      have inside : Standing next nodes (path ++ [node]) done :=
        standing.push arrow member offPath fresh
      have enoughInside : nodes.length ≤ fuel + (path ++ [node]).length := by
        simp only [List.length_append, List.length_singleton]
        omega
      have outcome :
          Outcome next (path ++ [node]) (next node) done
            ((next node).foldlM (followArrow next fuel (path ++ [node])) done) := by
        refine outcome_foldlM (outcome_followArrow (inductionHypothesis enoughInside)) inside
          (closed node member) ?_
        intro target targetArrow last isLast
        obtain rfl : node = last := by simpa using isLast
        exact targetArrow
      rw [finishFrom_succ]
      cases result : (next node).foldlM (followArrow next fuel (path ++ [node])) done with
      | error cycle =>
          rw [result] at outcome
          exact Loops.leave outcome
      | ok after =>
          rw [result] at outcome
          exact Finishes.leave offPath outcome

/-- A search from several nodes of a graph, one after the other, ends with everything behind them
left, or with a cycle. -/
theorem outcome_starts
    (closed : ∀ node ∈ nodes, next node ⊆ nodes)
    {starts : List α}
    (subset : starts ⊆ nodes) :
    Outcome next [] starts [] (starts.foldlM (followArrow next nodes.length []) []) := by
  have standing : Standing next nodes [] [] :=
    ⟨.nil, List.nodup_nil, .nil, List.nil_subset _, by simp⟩
  refine outcome_foldlM (outcome_followArrow ?_) standing subset (by simp)
  exact outcome_finishFrom closed (Nat.le_add_right _ _)

end

end CargoDeps.Digraph
