import CargoDeps.Digraph.Walk
import CargoDeps.Proofs.Digraph.Reachability

namespace CargoDeps.Digraph

/-!
# The search from both ends finds a path

Each side keeps a trail back to its own end for every node that it has found.  As long as the sides
have not met, no node has been found by both.  Where they meet, the trails from the meeting node
therefore have no other node in common, and together they are a path through distinct nodes.  If
they cannot meet, one side has found everything that its end reaches.
-/

variable {α : Type}

/-- A path from one node to another through distinct nodes, both included. -/
structure IsPath
    (next : α → List α)
    (source target : α)
    (path : List α) : Prop where
  head : path.head? = some source
  last : path.getLast? = some target
  chain : path.IsChain (Arrow next)
  nodup : path.Nodup

/-- A trail from a node back to the end of a side, along neighbours. -/
structure IsTrail
    (neighbours : α → List α)
    (origin node : α)
    (trail : List α) : Prop where
  head : trail.head? = some node
  last : trail.getLast? = some origin
  chain : trail.IsChain fun later earlier => later ∈ neighbours earlier
  nodup : trail.Nodup

/-- A trail can be started one neighbour further away. -/
theorem IsTrail.cons
    {neighbours : α → List α}
    {origin node neighbour : α}
    {trail : List α}
    (isTrail : IsTrail neighbours origin node trail)
    (arrow : neighbour ∈ neighbours node)
    (fresh : neighbour ∉ trail) :
    IsTrail neighbours origin neighbour (neighbour :: trail) where
  head := rfl
  last := by
    simp [List.getLast?_cons, isTrail.last]
  chain := by
    refine isTrail.chain.cons ?_
    intro other isHead
    rw [isTrail.head] at isHead
    obtain rfl := Option.mem_some_iff.mp isHead
    exact arrow
  nodup := List.nodup_cons.mpr ⟨fresh, isTrail.nodup⟩

namespace Side

/-- The nodes that a side has found. -/
def known (side : Side α) : List α :=
  side.trails.map Prod.fst

variable [DecidableEq α] {side : Side α}

theorem found_iff
    {node : α} :
    side.found node = true ↔ node ∈ side.known := by
  simp [found, trail?, known]

theorem exists_trail
    {node : α}
    (member : node ∈ side.known) :
    ∃ trail, side.trail? node = some trail :=
  Option.isSome_iff_exists.mp (found_iff.mpr member)

theorem known_add
    (trail : List α)
    (recorded : α)
    {node : α} :
    node ∈ (side.add trail recorded).known ↔ node ∈ side.known ∨ node = recorded := by
  unfold add
  split
  · next found =>
      constructor
      · exact Or.inl
      · rintro (member | rfl)
        · exact member
        · exact found_iff.mp found
  · simp [known]

theorem nodup_known_add
    {trail : List α}
    {recorded : α}
    (nodup : side.known.Nodup) :
    (side.add trail recorded).known.Nodup := by
  unfold add
  split
  · exact nodup
  · next notFound =>
      have fresh : recorded ∉ side.known :=
        fun known => notFound (found_iff.mpr known)
      have shape :
          known ⟨side.trails ++ [(recorded, recorded :: trail)], side.front ++ [recorded]⟩ =
            side.known ++ [recorded] := by
        simp [known]
      rw [shape, ← List.concat_eq_append]
      exact List.Nodup.concat fresh nodup

theorem trail?_add_of_some
    {trail other : List α}
    {recorded node : α}
    (has : side.trail? node = some other) :
    (side.add trail recorded).trail? node = some other := by
  unfold add
  split
  · exact has
  · simp only [trail?] at has ⊢
    simp [List.lookup_append, has]

/-- A trail is an old one or that of a node just recorded. -/
theorem trail?_add_eq_some
    {trail other : List α}
    {recorded node : α}
    (has : (side.add trail recorded).trail? node = some other) :
    side.trail? node = some other ∨
      node = recorded ∧ other = recorded :: trail ∧ recorded ∉ side.known := by
  unfold add at has
  split at has
  · exact Or.inl has
  · next notFound =>
      simp only [trail?, List.lookup_append] at has ⊢
      cases old : side.trails.lookup node with
      | some kept =>
          rw [old] at has
          exact Or.inl has
      | none =>
          rw [old] at has
          by_cases same : node = recorded
          · subst same
            refine Or.inr ⟨rfl, ?_, fun member => notFound (found_iff.mpr member)⟩
            simpa using has.symm
          · have different : (node == recorded) = false :=
              beq_eq_false_iff_ne.mpr same
            simp [List.lookup_cons, different] at has

/-- What holds of a side at any time. -/
structure Valid
    (neighbours : α → List α)
    (nodes : List α)
    (origin : α)
    (side : Side α) : Prop where
  nodup : side.known.Nodup
  subset : side.known ⊆ nodes
  front_subset : side.front ⊆ side.known
  origin_mem : origin ∈ side.known
  isTrail :
    ∀ {node : α} {trail : List α},
      side.trail? node = some trail →
      IsTrail neighbours origin node trail ∧ trail ⊆ side.known

/-- How a side grows: nothing is lost, and all that is new joins the front. -/
structure Grows (before after : Side α) : Prop where
  trail?_eq :
    ∀ {node : α} {trail : List α},
      before.trail? node = some trail →
      after.trail? node = some trail
  known_subset : before.known ⊆ after.known
  new_front : ∀ node ∈ after.known, node ∈ before.known ∨ node ∈ after.front
  front_subset : before.front ⊆ after.front
  balance :
    after.trails.length + before.front.length = before.trails.length + after.front.length

namespace Grows

theorem refl (side : Side α) : Grows side side where
  trail?_eq := id
  known_subset := List.Subset.refl _
  new_front := fun _ => Or.inl
  front_subset := List.Subset.refl _
  balance := rfl

theorem trans
    {first second third : Side α}
    (earlier : Grows first second)
    (later : Grows second third) :
    Grows first third where
  trail?_eq := fun has => later.trail?_eq (earlier.trail?_eq has)
  known_subset := List.Subset.trans earlier.known_subset later.known_subset
  new_front := by
    intro node member
    rcases later.new_front node member with before | inFront
    · rcases earlier.new_front node before with old | inFront
      · exact Or.inl old
      · exact Or.inr (later.front_subset inFront)
    · exact Or.inr inFront
  front_subset := List.Subset.trans earlier.front_subset later.front_subset
  balance := by
    have := earlier.balance
    have := later.balance
    omega

theorem add
    (trail : List α)
    (recorded : α) :
    Grows side (side.add trail recorded) where
  trail?_eq := trail?_add_of_some
  known_subset := fun _ member => (known_add trail recorded).mpr (Or.inl member)
  new_front := by
    intro node member
    by_cases found : side.found recorded = true
    · simp only [Side.add, found, if_true] at member
      exact Or.inl member
    · rcases (known_add trail recorded).mp member with old | rfl
      · exact Or.inl old
      · simp [Side.add, found]
  front_subset := by
    unfold Side.add
    split
    · exact List.Subset.refl _
    · exact List.subset_append_left _ _
  balance := by
    unfold Side.add
    split
    · rfl
    · simp only [List.length_append, List.length_singleton]
      omega

end Grows

/-- A neighbour of a found node can be recorded. -/
theorem Valid.add
    {neighbours : α → List α}
    {nodes trail : List α}
    {origin node recorded : α}
    (valid : side.Valid neighbours nodes origin)
    (has : side.trail? node = some trail)
    (arrow : recorded ∈ neighbours node)
    (member : recorded ∈ nodes) :
    (side.add trail recorded).Valid neighbours nodes origin := by
  have grows : Grows side (side.add trail recorded) :=
    .add trail recorded
  refine ⟨nodup_known_add valid.nodup, ?_, ?_, grows.known_subset valid.origin_mem, ?_⟩
  · intro found foundMember
    rcases (known_add trail recorded).mp foundMember with old | rfl
    · exact valid.subset old
    · exact member
  · intro inFront frontMember
    unfold Side.add at frontMember
    split at frontMember
    · exact grows.known_subset (valid.front_subset frontMember)
    · rcases List.mem_append.mp frontMember with old | isRecorded
      · exact grows.known_subset (valid.front_subset old)
      · exact (known_add trail recorded).mpr (Or.inr (List.mem_singleton.mp isRecorded))
  · intro other otherTrail otherHas
    rcases trail?_add_eq_some otherHas with old | ⟨rfl, rfl, fresh⟩
    · obtain ⟨isTrail, inside⟩ := valid.isTrail old
      exact ⟨isTrail, List.Subset.trans inside grows.known_subset⟩
    · obtain ⟨isTrail, inside⟩ := valid.isTrail has
      refine ⟨isTrail.cons arrow fun onTrail => fresh (inside onTrail), ?_⟩
      rw [List.cons_subset]
      exact ⟨(known_add trail other).mpr (Or.inr rfl),
        List.Subset.trans inside grows.known_subset⟩

/-- What a part of a round makes of a side that had nothing in common with the other side: nothing
but the meeting node has been found by both, and without one all targets have been found. -/
structure Advanced
    (neighbours : α → List α)
    (nodes : List α)
    (origin : α)
    (other before : Side α)
    (targets : List α)
    (result : Side α × Option α) : Prop where
  valid : result.1.Valid neighbours nodes origin
  grows : Grows before result.1
  apart : ∀ node ∈ result.1.known, node ∈ other.known → result.2 = some node
  meeting_mem : ∀ node ∈ result.2, node ∈ result.1.known ∧ node ∈ other.known
  complete : result.2 = none → targets ⊆ result.1.known

namespace Advanced

variable {neighbours : α → List α} {nodes targets : List α} {origin : α} {other before : Side α}

theorem start
    (valid : before.Valid neighbours nodes origin)
    (apart : ∀ node ∈ before.known, node ∉ other.known) :
    Advanced neighbours nodes origin other before [] (before, none) where
  valid := valid
  grows := .refl before
  apart := fun node member otherMember => absurd otherMember (apart node member)
  meeting_mem := by simp
  complete := fun _ => List.nil_subset _

/-- Before the sides meet they have nothing in common. -/
theorem not_mem_other
    {after : Side α}
    (advanced : Advanced neighbours nodes origin other before targets (after, none)) :
    ∀ node ∈ after.known, node ∉ other.known := by
  intro node member otherMember
  cases advanced.apart node member otherMember

/-- A round goes on until the sides meet. -/
theorem append
    {between : Side α}
    {more : List α}
    {result : Side α × Option α}
    (first : Advanced neighbours nodes origin other before targets (between, none))
    (later : Advanced neighbours nodes origin other between more result) :
    Advanced neighbours nodes origin other before (targets ++ more) result where
  valid := later.valid
  grows := first.grows.trans later.grows
  apart := later.apart
  meeting_mem := later.meeting_mem
  complete := by
    intro notMet
    rw [List.append_subset]
    exact ⟨List.Subset.trans (first.complete rfl) later.grows.known_subset,
      later.complete notMet⟩

theorem stop
    {after : Side α}
    {meeting : α}
    (more : List α)
    (advanced : Advanced neighbours nodes origin other before targets (after, some meeting)) :
    Advanced neighbours nodes origin other before (targets ++ more) (after, some meeting) where
  valid := advanced.valid
  grows := advanced.grows
  apart := advanced.apart
  meeting_mem := advanced.meeting_mem
  complete := by simp

/-- To record one neighbour is a part of a round. -/
theorem add
    {trail : List α}
    {node recorded : α}
    (valid : before.Valid neighbours nodes origin)
    (apart : ∀ known ∈ before.known, known ∉ other.known)
    (has : before.trail? node = some trail)
    (arrow : recorded ∈ neighbours node)
    (member : recorded ∈ nodes) :
    Advanced neighbours nodes origin other before [recorded]
      (before.add trail recorded, if other.found recorded then some recorded else none) where
  valid := valid.add has arrow member
  grows := .add trail recorded
  apart := by
    intro known knownMember otherMember
    rcases (known_add trail recorded).mp knownMember with old | rfl
    · exact absurd otherMember (apart known old)
    · simp [found_iff.mpr otherMember]
  meeting_mem := by
    intro meeting isMeeting
    split at isMeeting
    · next otherFound =>
        obtain rfl := Option.mem_some_iff.mp isMeeting
        exact ⟨(known_add trail recorded).mpr (Or.inr rfl), found_iff.mp otherFound⟩
    · cases isMeeting
  complete := by
    intro _ target isRecorded
    exact (known_add trail recorded).mpr (Or.inr (List.mem_singleton.mp isRecorded))

end Advanced

section

variable {neighbours : α → List α} {nodes : List α} {origin : α} {other : Side α}

/-- The neighbours of one node are recorded one by one. -/
theorem advanced_meetAmong
    {trail targets : List α}
    {node : α}
    (valid : side.Valid neighbours nodes origin)
    (apart : ∀ known ∈ side.known, known ∉ other.known)
    (has : side.trail? node = some trail)
    (arrows : targets ⊆ neighbours node)
    (members : targets ⊆ nodes) :
    Advanced neighbours nodes origin other side targets (meetAmong other trail side targets) := by
  induction targets generalizing side with
  | nil =>
      exact .start valid apart
  | cons target rest inductionHypothesis =>
      obtain ⟨arrow, restArrows⟩ := List.cons_subset.mp arrows
      obtain ⟨member, restMembers⟩ := List.cons_subset.mp members
      have first := Advanced.add valid apart has arrow member
      unfold meetAmong
      by_cases otherFound : other.found target = true
      · rw [if_pos otherFound] at first ⊢
        exact first.stop rest
      · rw [if_neg otherFound] at first ⊢
        exact first.append
          (inductionHypothesis first.valid first.not_mem_other (first.grows.trail?_eq has)
            restArrows restMembers)

/-- A round records the neighbours of the nodes of a front one by one. -/
theorem advanced_advance
    (closed : ∀ node ∈ nodes, neighbours node ⊆ nodes)
    {front : List α}
    (valid : side.Valid neighbours nodes origin)
    (apart : ∀ known ∈ side.known, known ∉ other.known)
    (frontKnown : front ⊆ side.known) :
    Advanced neighbours nodes origin other side (front.flatMap neighbours)
      (advance neighbours other side front) := by
  induction front generalizing side with
  | nil =>
      exact .start valid apart
  | cons node rest inductionHypothesis =>
      obtain ⟨nodeKnown, restKnown⟩ := List.cons_subset.mp frontKnown
      obtain ⟨trail, has⟩ := exists_trail nodeKnown
      have first :
          Advanced neighbours nodes origin other side (neighbours node)
            (meetAmong other ((side.trail? node).getD []) side (neighbours node)) := by
        rw [has]
        exact advanced_meetAmong valid apart has (List.Subset.refl _)
          (closed node (valid.subset nodeKnown))
      rw [List.flatMap_cons]
      unfold advance
      split
      · next after meeting result =>
          rw [result] at first
          exact first.stop (rest.flatMap neighbours)
      · next after result =>
          rw [result] at first
          exact first.append
            (inductionHypothesis first.valid first.not_mem_other
              (List.Subset.trans restKnown first.grows.known_subset))

end

/-- A side between two rounds: the neighbours of every node that is not in the front have been
found. -/
structure Explored
    (neighbours : α → List α)
    (nodes : List α)
    (origin : α)
    (side : Side α) : Prop extends side.Valid neighbours nodes origin where
  expanded : ∀ node ∈ side.known, node ∈ side.front ∨ neighbours node ⊆ side.known

namespace Explored

variable {neighbours : α → List α} {nodes : List α} {origin : α} {other : Side α}

theorem start
    (member : origin ∈ nodes) :
    (Side.start origin).Explored neighbours nodes origin where
  nodup := by simp [Side.start, known]
  subset := by simpa [Side.start, known] using member
  front_subset := by simp [Side.start, known]
  origin_mem := by simp [Side.start, known]
  isTrail := by
    intro node trail has
    by_cases same : node = origin
    · subst same
      obtain rfl : [node] = trail := by
        simpa [Side.start, trail?] using has
      exact ⟨⟨rfl, rfl, .singleton _, by simp⟩, by simp [Side.start, known]⟩
    · have different : (node == origin) = false :=
        beq_eq_false_iff_ne.mpr same
      simp [Side.start, trail?, List.lookup_cons, different] at has
  expanded := by simp [Side.start, known]

/-- A whole round, in which the front is made anew. -/
theorem round
    (closed : ∀ node ∈ nodes, neighbours node ⊆ nodes)
    (explored : side.Explored neighbours nodes origin)
    (apart : ∀ node ∈ side.known, node ∉ other.known) :
    Advanced neighbours nodes origin other { side with front := [] }
      (side.front.flatMap neighbours)
      (advance neighbours other { side with front := [] } side.front) := by
  refine advanced_advance closed ?_ apart explored.front_subset
  exact ⟨explored.nodup, explored.subset, List.nil_subset _, explored.origin_mem,
    explored.isTrail⟩

/-- After a round in which the sides do not meet, the neighbours of the old front are found. -/
theorem after_round
    {after : Side α}
    (explored : side.Explored neighbours nodes origin)
    (advanced :
      Advanced neighbours nodes origin other { side with front := [] }
        (side.front.flatMap neighbours) (after, none)) :
    after.Explored neighbours nodes origin where
  toValid := advanced.valid
  expanded := by
    intro node member
    rcases advanced.grows.new_front node member with old | inFront
    · right
      rcases explored.expanded node old with inFront | found
      · refine List.Subset.trans ?_ (advanced.complete rfl)
        exact fun neighbour arrow => List.mem_flatMap.mpr ⟨node, inFront, arrow⟩
      · exact List.Subset.trans found advanced.grows.known_subset
    · exact Or.inl inFront

/-- With nothing left in the front, all that the end reaches has been found. -/
theorem mem_of_reaches
    {target : α}
    (explored : side.Explored neighbours nodes origin)
    (noFront : side.front = [])
    (path : Reaches neighbours origin target) :
    target ∈ side.known := by
  refine path.mem_of_closed ?_ explored.origin_mem
  intro node member
  rcases explored.expanded node member with inFront | found
  · rw [noFront] at inFront
    cases inFront
  · exact found

theorem length_le
    (explored : side.Explored neighbours nodes origin) :
    side.trails.length ≤ nodes.length := by
  have bound := (explored.nodup.subperm explored.subset).length_le
  simpa [known] using bound

end Explored

end Side

variable [DecidableEq α] {graph : Digraph α}

/-- Two sides that have one node in common join their trails to a path. -/
theorem exists_joinTrails
    (sound : graph.Sound)
    {source target meeting : α}
    {ahead behind : Side α}
    (aheadValid : ahead.Valid graph.next graph.nodes source)
    (behindValid : behind.Valid graph.prev graph.nodes target)
    (aheadMember : meeting ∈ ahead.known)
    (behindMember : meeting ∈ behind.known)
    (only : ∀ node ∈ ahead.known, node ∈ behind.known → node = meeting) :
    ∃ path, joinTrails ahead behind meeting = some path ∧
      IsPath graph.next source target path := by
  obtain ⟨before, beforeHas⟩ := Side.exists_trail aheadMember
  obtain ⟨after, afterHas⟩ := Side.exists_trail behindMember
  obtain ⟨beforeTrail, beforeKnown⟩ := aheadValid.isTrail beforeHas
  obtain ⟨afterTrail, afterKnown⟩ := behindValid.isTrail afterHas
  obtain ⟨rest, rfl⟩ := List.head?_eq_some_iff.mp afterTrail.head
  refine ⟨before.reverse ++ rest, by simp [joinTrails, beforeHas, afterHas], ?_, ?_, ?_, ?_⟩
  · simp [List.head?_append, beforeTrail.last]
  · have lastOfRest := afterTrail.last
    rw [List.getLast?_cons] at lastOfRest
    rw [List.getLast?_append, List.getLast?_reverse, beforeTrail.head]
    cases restLast : rest.getLast? with
    | none =>
        simpa [restLast] using lastOfRest
    | some last =>
        simpa [restLast] using lastOfRest
  · have forward : (meeting :: rest).IsChain (Arrow graph.next) := by
      refine afterTrail.chain.imp_of_mem_imp ?_
      intro later earlier laterMember earlierMember arrow
      exact (sound.mem_prev_iff later (behindValid.subset (afterKnown laterMember)) earlier
        (behindValid.subset (afterKnown earlierMember))).mp arrow
    refine List.IsChain.append (List.isChain_reverse.mpr beforeTrail.chain) forward.tail ?_
    intro last isLast first isFirst
    rw [List.getLast?_reverse, beforeTrail.head] at isLast
    obtain rfl := Option.mem_some_iff.mp isLast
    exact forward.rel_head? isFirst
  · rw [List.nodup_append]
    obtain ⟨notAgain, restNodup⟩ := List.nodup_cons.mp afterTrail.nodup
    refine ⟨(List.reverse_perm before).nodup_iff.mpr beforeTrail.nodup, restNodup, ?_⟩
    rintro node inBefore other inRest rfl
    have isMeeting : node = meeting :=
      only node (beforeKnown (by simpa using inBefore))
        (afterKnown (List.mem_cons_of_mem _ inRest))
    exact notAgain (isMeeting ▸ inRest)

/-- Two sides between two rounds, with enough rounds to go. -/
structure Approaching
    (graph : Digraph α)
    (source target : α)
    (fuel : Nat)
    (ahead behind : Side α) : Prop where
  ahead_explored : ahead.Explored graph.next graph.nodes source
  behind_explored : behind.Explored graph.prev graph.nodes target
  apart : ∀ node ∈ ahead.known, node ∉ behind.known
  enough :
    ahead.front = [] ∨ behind.front = [] ∨
      2 * graph.nodes.length < fuel + ahead.trails.length + behind.trails.length

namespace Approaching

variable {source target : α} {fuel : Nat} {ahead behind : Side α}

/-- Nothing leads from one end to the other once one side has nothing left to look at. -/
theorem not_reaches
    (sound : graph.Sound)
    (approaching : Approaching graph source target fuel ahead behind)
    (noFront : ahead.front = [] ∨ behind.front = []) :
    ¬ Reaches graph.next source target := by
  intro path
  have targetKnown : target ∈ behind.known := approaching.behind_explored.origin_mem
  have sourceKnown : source ∈ ahead.known := approaching.ahead_explored.origin_mem
  rcases noFront with noFront | noFront
  · exact approaching.apart target
      (approaching.ahead_explored.mem_of_reaches noFront path) targetKnown
  · have back : Reaches graph.prev target source :=
      (sound.reaches_prev_iff (approaching.ahead_explored.subset sourceKnown)
        (approaching.behind_explored.subset targetKnown)).mpr path
    exact approaching.apart source sourceKnown
      (approaching.behind_explored.mem_of_reaches noFront back)

/-- Without rounds to go one side has nothing left to look at. -/
theorem front_eq_nil
    (approaching : Approaching graph source target 0 ahead behind) :
    ahead.front = [] ∨ behind.front = [] := by
  have aheadBound := approaching.ahead_explored.length_le
  have behindBound := approaching.behind_explored.length_le
  rcases approaching.enough with noFront | noFront | enough
  · exact Or.inl noFront
  · exact Or.inr noFront
  · omega

/-- The two sides change places when the arrows are turned around. -/
theorem swap
    (approaching : Approaching graph source target fuel ahead behind) :
    Approaching graph.reversed target source fuel behind ahead where
  ahead_explored := approaching.behind_explored
  behind_explored := approaching.ahead_explored
  apart := fun node inBehind inAhead => approaching.apart node inAhead inBehind
  enough := by
    rcases approaching.enough with noFront | noFront | enough
    · exact Or.inr (Or.inl noFront)
    · exact Or.inl noFront
    · refine Or.inr (Or.inr ?_)
      simp only [reversed]
      omega

/-- What a round makes of the side ahead. -/
theorem advanced
    (sound : graph.Sound)
    (approaching : Approaching graph source target fuel ahead behind) :
    Side.Advanced graph.next graph.nodes source behind { ahead with front := [] }
      (ahead.front.flatMap graph.next)
      (Side.advance graph.next behind { ahead with front := [] } ahead.front) :=
  approaching.ahead_explored.round sound.next_subset approaching.apart

/-- After a round in which the sides do not meet there is one round less to go. -/
theorem after_round
    (sound : graph.Sound)
    (approaching : Approaching graph source target (fuel + 1) ahead behind)
    (fronts : ¬(ahead.front = [] ∨ behind.front = []))
    {after : Side α}
    (result :
      Side.advance graph.next behind { ahead with front := [] } ahead.front = (after, none)) :
    Approaching graph source target fuel after behind := by
  obtain ⟨aheadFront, behindFront⟩ := not_or.mp fronts
  have enough :
      2 * graph.nodes.length < fuel + 1 + ahead.trails.length + behind.trails.length :=
    (approaching.enough.resolve_left aheadFront).resolve_left behindFront
  have advanced := approaching.advanced sound
  rw [result] at advanced
  refine ⟨approaching.ahead_explored.after_round advanced, approaching.behind_explored,
    advanced.not_mem_other, ?_⟩
  by_cases noFront : after.front = []
  · exact Or.inl noFront
  · -- A front that is not empty holds a node found in this round, which pays for the round.
    have grown := List.length_pos_iff.mpr noFront
    have balance := advanced.grows.balance
    simp only [List.length_nil] at balance
    exact Or.inr (Or.inr (by omega))

end Approaching

/-- What a search for a path gives. -/
def PathOutcome
    (graph : Digraph α)
    (source target : α) :
    Option (List α) → Prop
  | some path => IsPath graph.next source target path
  | none => ¬ Reaches graph.next source target

/-- Where the sides meet, they find a path. -/
theorem pathOutcome_joinTrails
    (sound : graph.Sound)
    {source target meeting : α}
    {ahead behind : Side α}
    (aheadValid : ahead.Valid graph.next graph.nodes source)
    (behindValid : behind.Valid graph.prev graph.nodes target)
    (both : meeting ∈ ahead.known ∧ meeting ∈ behind.known)
    (only : ∀ node ∈ ahead.known, node ∈ behind.known → some meeting = some node) :
    PathOutcome graph source target (joinTrails ahead behind meeting) := by
  obtain ⟨path, joins, isPath⟩ :=
    exists_joinTrails sound aheadValid behindValid both.1 both.2 fun node inAhead inBehind =>
      (Option.some.inj (only node inAhead inBehind)).symm
  rw [joins]
  exact isPath

/-- Two sides that have not met find a path, or there is none. -/
theorem pathOutcome_meetBetween
    (sound : graph.Sound)
    {source target : α}
    {fuel : Nat}
    {ahead behind : Side α}
    (approaching : Approaching graph source target fuel ahead behind) :
    PathOutcome graph source target (graph.meetBetween fuel ahead behind) := by
  induction fuel generalizing ahead behind with
  | zero =>
      exact approaching.not_reaches sound approaching.front_eq_nil
  | succ fuel inductionHypothesis =>
      unfold meetBetween
      split
      · next noFront =>
          exact approaching.not_reaches sound noFront
      · next fronts =>
          split
          · split
            · next after meeting result =>
                have advanced := approaching.advanced sound
                rw [result] at advanced
                exact pathOutcome_joinTrails sound advanced.valid
                  approaching.behind_explored.toValid (advanced.meeting_mem meeting rfl)
                  advanced.apart
            · next after result =>
                exact inductionHypothesis (approaching.after_round sound fronts result)
          · split
            · next after meeting result =>
                have advanced := approaching.swap.advanced sound.reversed
                simp only [reversed] at advanced
                rw [result] at advanced
                exact pathOutcome_joinTrails sound approaching.ahead_explored.toValid
                  advanced.valid (advanced.meeting_mem meeting rfl).symm
                  (fun node inAhead inBehind => advanced.apart node inBehind inAhead)
            · next after result =>
                have turned := approaching.swap.after_round sound.reversed
                  (fun noFront => fronts noFront.symm) result
                exact inductionHypothesis turned.swap

/-- The search between two nodes of a graph finds a path, or there is none. -/
theorem pathOutcome_shortestPath?
    (sound : graph.Sound)
    {source target : α}
    (sourceMember : source ∈ graph.nodes)
    (targetMember : target ∈ graph.nodes) :
    PathOutcome graph source target (graph.shortestPath? source target) := by
  unfold shortestPath?
  split
  · next same =>
      subst same
      exact ⟨rfl, rfl, .singleton source, by simp⟩
  · next different =>
      refine pathOutcome_meetBetween sound ⟨.start sourceMember, .start targetMember, ?_, ?_⟩
      · simpa [Side.start, Side.known] using different
      · simp only [Side.start, List.length_singleton]
        omega

/-- Between nodes that a path joins, a path through distinct nodes is found. -/
theorem exists_shortestPath?
    (sound : graph.Sound)
    {source target : α}
    (sourceMember : source ∈ graph.nodes)
    (targetMember : target ∈ graph.nodes)
    (path : Reaches graph.next source target) :
    ∃ found, graph.shortestPath? source target = some found ∧
      IsPath graph.next source target found := by
  have outcome := pathOutcome_shortestPath? sound sourceMember targetMember
  cases result : graph.shortestPath? source target with
  | none =>
      rw [result] at outcome
      exact absurd path outcome
  | some found =>
      rw [result] at outcome
      exact ⟨found, rfl, outcome⟩

end CargoDeps.Digraph
