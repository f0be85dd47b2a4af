import CargoDeps.Proofs.Digraph.BreadthFirst
import CargoDeps.Proofs.Sequence.Distinct
import Mathlib.Order.ConditionallyCompleteLattice.Basic
import Mathlib.Order.Lattice.Nat

namespace CargoDeps.Digraph

/-!
# The order in which a search finds nodes

A search finds a node on the turn of the first listed node that has an arrow to it, and among what
that node leads to at its first place there.  Nodes stand in the order of turns, and those of one
turn in the order of places.  Hence no node is further from the starts than one that stands behind
it: distances never decrease along the listing.
-/

variable {α : Type} [DecidableEq α]

/-- The position in a listing of the first node that has an arrow to a node. -/
def turnOf
    (next : α → List α)
    (listing : List α)
    (node : α) : Nat :=
  listing.findIdx fun other => node ∈ next other

/-- The place of a node among what that first node leads to. -/
def placeOf
    (next : α → List α)
    (listing : List α)
    (node : α) : Nat :=
  match listing[turnOf next listing node]? with
  | some other => (next other).idxOf node
  | none => 0

/-- One node is found before another: on an earlier turn, or on the same turn at an earlier
place. -/
def FoundBefore
    (next : α → List α)
    (listing : List α)
    (first second : α) : Prop :=
  turnOf next listing first < turnOf next listing second ∨
    turnOf next listing first = turnOf next listing second ∧
      placeOf next listing first < placeOf next listing second

variable {next : α → List α} {listing : List α} {node : α}

/-! ### Turns and places of a longer listing -/

/-- On whose turn a node is found is settled as soon as one of the listed nodes leads to it. -/
theorem turnOf_append
    (settled : turnOf next listing node < listing.length)
    (later : List α) :
    turnOf next (listing ++ later) node = turnOf next listing node := by
  rw [turnOf, List.findIdx_append]
  exact if_pos settled

theorem placeOf_append
    (settled : turnOf next listing node < listing.length)
    (later : List α) :
    placeOf next (listing ++ later) node = placeOf next listing node := by
  rw [placeOf, placeOf, turnOf_append settled, List.getElem?_append_left settled]

/-- The first node that leads to another has the turn on which that one is found. -/
theorem turnOf_eq_length
    {earlier later : List α}
    {turn : α}
    (arrow : node ∈ next turn)
    (isFirst : ∀ other ∈ earlier, node ∉ next other) :
    turnOf next (earlier ++ turn :: later) node = earlier.length := by
  have none : earlier.findIdx (fun other => node ∈ next other) = earlier.length :=
    List.findIdx_eq_length.mpr fun other member => decide_eq_false (isFirst other member)
  rw [turnOf, List.findIdx_append, none]
  simp [List.findIdx_cons, arrow]

/-! ### What a search keeps -/

/-- What holds between two turns of a search that has found some nodes besides its starts. -/
structure Discovering
    (next : α → List α)
    (starts found done waiting : List α) : Prop where
  listed : done ++ waiting = starts ++ found
  arrows : ∀ other ∈ done, next other ⊆ done ++ waiting
  settled : ∀ node ∈ found, turnOf next (done ++ waiting) node < done.length
  behind : ∀ node ∈ found, turnOf next (done ++ waiting) node < (done ++ waiting).idxOf node
  ordered : found.Pairwise (FoundBefore next (done ++ waiting))

namespace Discovering

variable {starts found done waiting : List α} {turn : α}

/-- A search starts with nothing found. -/
theorem start
    (starts : List α) :
    Discovering next starts [] [] starts where
  listed := (List.append_nil starts).symm
  arrows := by simp
  settled := by simp
  behind := by simp
  ordered := .nil

/-- What is new on a turn is found on this turn. -/
theorem turnOf_new
    (discovering : Discovering next starts found done (turn :: waiting))
    (isNew : node ∈ Sequence.fresh (done ++ turn :: waiting) (next turn))
    (later : List α) :
    turnOf next (done ++ turn :: waiting ++ later) node = done.length := by
  obtain ⟨arrow, unknown⟩ := Sequence.mem_fresh.mp isNew
  rw [List.append_assoc, List.cons_append]
  apply turnOf_eq_length arrow
  intro other left leads
  exact unknown (discovering.arrows other left leads)

theorem placeOf_new
    (discovering : Discovering next starts found done (turn :: waiting))
    (isNew : node ∈ Sequence.fresh (done ++ turn :: waiting) (next turn))
    (later : List α) :
    placeOf next (done ++ turn :: waiting ++ later) node = (next turn).idxOf node := by
  rw [placeOf, discovering.turnOf_new isNew]
  simp

/-- One turn: what it finds stands behind all that was found before. -/
theorem leave
    (discovering : Discovering next starts found done (turn :: waiting)) :
    Discovering next starts
      (found ++ Sequence.fresh (done ++ turn :: waiting) (next turn))
      (done ++ [turn])
      (waiting ++ Sequence.fresh (done ++ turn :: waiting) (next turn)) := by
  have settledBefore : ∀ node ∈ found,
      turnOf next (done ++ turn :: waiting) node < (done ++ turn :: waiting).length := by
    intro node before
    refine (discovering.settled node before).trans_le ?_
    rw [List.length_append]
    exact Nat.le_add_right _ _
  refine ⟨?_, subset_leave discovering.arrows, ?_, ?_, ?_⟩
  · rw [leave_append, discovering.listed, List.append_assoc]
  · intro node isFound
    rw [leave_append, List.length_append, List.length_singleton]
    rcases List.mem_append.mp isFound with before | isNew
    · rw [turnOf_append (settledBefore node before)]
      exact Nat.lt_succ_of_lt (discovering.settled node before)
    · rw [discovering.turnOf_new isNew]
      exact Nat.lt_succ_self _
  · intro node isFound
    rw [leave_append]
    rcases List.mem_append.mp isFound with before | isNew
    · have known : node ∈ done ++ turn :: waiting :=
        discovering.listed ▸ List.mem_append_right starts before
      rw [turnOf_append (settledBefore node before), List.idxOf_append_of_mem known]
      exact discovering.behind node before
    · have unknown := (Sequence.mem_fresh.mp isNew).2
      rw [discovering.turnOf_new isNew, List.idxOf_append_of_notMem unknown]
      simp only [List.length_append, List.length_cons]
      omega
  · rw [leave_append]
    refine List.pairwise_append.mpr ⟨?_, ?_, ?_⟩
    · refine discovering.ordered.imp_of_mem ?_
      intro first second firstBefore secondBefore before
      simp only [FoundBefore, turnOf_append (settledBefore first firstBefore),
        turnOf_append (settledBefore second secondBefore),
        placeOf_append (settledBefore first firstBefore),
        placeOf_append (settledBefore second secondBefore)]
      exact before
    · refine (Sequence.pairwise_idxOf_fresh _ _).imp_of_mem ?_
      intro first second firstNew secondNew before
      refine Or.inr ⟨?_, ?_⟩
      · rw [discovering.turnOf_new firstNew, discovering.turnOf_new secondNew]
      · rw [discovering.placeOf_new firstNew, discovering.placeOf_new secondNew]
        exact before
    · intro first firstBefore second secondNew
      refine Or.inl ?_
      rw [turnOf_append (settledBefore first firstBefore), discovering.turnOf_new secondNew]
      exact discovering.settled first firstBefore

/-- So it stays from turn to turn. -/
theorem of_turns
    {state after : List α × List α}
    (discovering : Discovering next starts found state.1 state.2)
    (turns : Relation.ReflTransGen (Turn next) state after) :
    ∃ others, Discovering next starts others after.1 after.2 := by
  induction turns with
  | refl =>
      exact ⟨found, discovering⟩
  | tail _ turn inductionHypothesis =>
      obtain ⟨others, still⟩ := inductionHypothesis
      cases turn with
      | leave done node waiting =>
          exact ⟨_, still.leave⟩

end Discovering

/-! ### The order of a listing -/

/-- The order in which a search lists its starts and what it finds besides them. -/
structure DiscoveryOrder
    (next : α → List α)
    (starts found : List α) : Prop where
  nodup : (starts ++ found).Nodup
  reached : ∀ node ∈ starts ++ found, ∃ count, ReachesIn next starts count node
  closed : ∀ node ∈ starts ++ found, next node ⊆ starts ++ found
  behind : ∀ node ∈ found, turnOf next (starts ++ found) node < (starts ++ found).idxOf node
  ordered : found.Pairwise (FoundBefore next (starts ++ found))

/-- A search lists its starts first, and then what it finds in the order of turns and places. -/
theorem exists_discoveryOrder
    {graph : Digraph α}
    (sound : graph.Sound)
    {starts : List α}
    (subset : starts ⊆ graph.nodes) :
    ∃ found,
      graph.reach starts = Sequence.distinct starts ++ found ∧
        DiscoveryOrder graph.next (Sequence.distinct starts) found := by
  obtain ⟨found, discovering⟩ :=
    (Discovering.start (Sequence.distinct starts)).of_turns (turns_reach sound subset)
  have listed := discovering.listed
  have arrows := discovering.arrows
  have behind := discovering.behind
  have ordered := discovering.ordered
  simp only [List.append_nil] at listed arrows behind ordered
  refine ⟨found, listed, ?_, ?_, ?_, ?_, ?_⟩
  · exact listed ▸ nodup_reach sound subset
  · intro node member
    obtain ⟨start, isStart, path⟩ := (mem_reach_iff sound subset).mp (listed ▸ member)
    exact exists_reachesIn_iff.mpr ⟨start, Sequence.mem_distinct.mpr isStart, path⟩
  · exact listed ▸ arrows
  · exact listed ▸ behind
  · exact listed ▸ ordered

/-! ### Distances -/

namespace DiscoveryOrder

variable {starts found : List α} {first second : α}

theorem mem_of_reachesIn
    {count : Nat}
    (order : DiscoveryOrder next starts found)
    (path : ReachesIn next starts count node) :
    node ∈ starts ++ found := by
  induction path with
  | start isStart =>
      exact List.mem_append_left found isStart
  | step _ arrow inductionHypothesis =>
      exact order.closed _ inductionHypothesis arrow

/-- The starts are what stands at the front of a listing. -/
theorem mem_starts_iff :
    node ∈ starts ↔ (starts ++ found).idxOf node < starts.length := by
  constructor
  · intro isStart
    rw [List.idxOf_append_of_mem isStart]
    exact List.idxOf_lt_length_of_mem isStart
  · intro front
    by_contra noStart
    rw [List.idxOf_append_of_notMem noStart] at front
    omega

/-- No node has been found on an earlier turn than one that stands before it. -/
theorem turnOf_le
    (order : DiscoveryOrder next starts found)
    (firstFound : first ∈ found)
    (secondFound : second ∈ found)
    (firstLate : first ∉ starts)
    (secondLate : second ∉ starts)
    (before : (starts ++ found).idxOf first ≤ (starts ++ found).idxOf second) :
    turnOf next (starts ++ found) first ≤ turnOf next (starts ++ found) second := by
  rw [List.idxOf_append_of_notMem firstLate, List.idxOf_append_of_notMem secondLate,
    Nat.add_le_add_iff_left] at before
  rcases before.eq_or_lt with same | strictly
  · rw [(List.idxOf_inj firstFound).mp same]
  · have inOrder :=
      List.pairwise_iff_getElem.mp order.ordered _ _ (List.idxOf_lt_length_of_mem firstFound)
        (List.idxOf_lt_length_of_mem secondFound) strictly
    rw [List.getElem_idxOf, List.getElem_idxOf] at inOrder
    rcases inOrder with earlier | ⟨same, -⟩
    · exact earlier.le
    · exact same.le

/-- One of the listed nodes has the turn on which a node is found, and leads to it. -/
theorem exists_turn
    (order : DiscoveryOrder next starts found)
    (isFound : node ∈ found) :
    ∃ parent,
      (starts ++ found)[turnOf next (starts ++ found) node]? = some parent ∧
        (starts ++ found).idxOf parent = turnOf next (starts ++ found) node ∧
          node ∈ next parent := by
  have bound : turnOf next (starts ++ found) node < (starts ++ found).length :=
    (order.behind node isFound).trans_le List.idxOf_le_length
  have leads := List.findIdx_getElem (w := bound)
  exact ⟨_, List.getElem?_eq_getElem bound, order.nodup.idxOf_getElem _ bound,
    of_decide_eq_true leads⟩

/-- No listed node that leads to another one stands before the turn on which that one is found. -/
theorem turnOf_le_idxOf
    {other : α}
    (leads : node ∈ next other) :
    turnOf next listing node ≤ listing.idxOf other := by
  by_contra late
  have leadsNot := List.not_of_lt_findIdx (Nat.lt_of_not_le late)
  rw [List.getElem_idxOf] at leadsNot
  exact of_decide_eq_false leadsNot leads

/-- What stands before a node is reached in at most as many steps. -/
theorem exists_reachesIn_le
    {count : Nat}
    (order : DiscoveryOrder next starts found)
    (path : ReachesIn next starts count second)
    (before : (starts ++ found).idxOf first ≤ (starts ++ found).idxOf second) :
    ∃ fewer ≤ count, ReachesIn next starts fewer first := by
  induction path generalizing first with
  | start isStart =>
      have firstStart : first ∈ starts :=
        mem_starts_iff.mpr (before.trans_lt (mem_starts_iff.mp isStart))
      exact ⟨0, le_rfl, .start firstStart⟩
  | @step count middle second path arrow inductionHypothesis =>
      by_cases firstStart : first ∈ starts
      · exact ⟨0, Nat.zero_le _, .start firstStart⟩
      have secondLate : second ∉ starts := by
        intro isStart
        exact firstStart (mem_starts_iff.mpr (before.trans_lt (mem_starts_iff.mp isStart)))
      have secondListed : second ∈ starts ++ found :=
        order.mem_of_reachesIn (path.step arrow)
      have firstListed : first ∈ starts ++ found :=
        List.idxOf_lt_length_iff.mp (before.trans_lt (List.idxOf_lt_length_of_mem secondListed))
      have secondFound := (List.mem_append.mp secondListed).resolve_left secondLate
      have firstFound := (List.mem_append.mp firstListed).resolve_left firstStart
      -- The node on whose turn `first` is found stands no later than `middle`.
      obtain ⟨parent, -, atTurn, leads⟩ := order.exists_turn firstFound
      have parentBefore :
          (starts ++ found).idxOf parent ≤ (starts ++ found).idxOf middle :=
        calc (starts ++ found).idxOf parent
            = turnOf next (starts ++ found) first := atTurn
          _ ≤ turnOf next (starts ++ found) second :=
            order.turnOf_le firstFound secondFound firstStart secondLate before
          _ ≤ (starts ++ found).idxOf middle :=
            turnOf_le_idxOf arrow
      obtain ⟨fewer, atMost, toParent⟩ := inductionHypothesis parentBefore
      exact ⟨fewer + 1, Nat.succ_le_succ atMost, toParent.step leads⟩

/-- Distances from the starts never decrease along the listing. -/
theorem exists_distance
    (order : DiscoveryOrder next starts found) :
    ∃ distance : α → Nat,
      (∀ node ∈ starts ++ found,
        IsLeast {count | ReachesIn next starts count node} (distance node)) ∧
      ((starts ++ found).map distance).Pairwise (· ≤ ·) := by
  have isLeast : ∀ node ∈ starts ++ found,
      IsLeast {count | ReachesIn next starts count node}
        (sInf {count | ReachesIn next starts count node}) :=
    fun node listed => isLeast_csInf (order.reached node listed)
  refine ⟨fun node => sInf {count | ReachesIn next starts count node}, isLeast, ?_⟩
  refine List.pairwise_map.mpr (List.pairwise_iff_getElem.mpr ?_)
  intro early late earlyBound lateBound before
  have inOrder :
      (starts ++ found).idxOf (starts ++ found)[early] ≤
        (starts ++ found).idxOf (starts ++ found)[late] := by
    rw [order.nodup.idxOf_getElem early earlyBound, order.nodup.idxOf_getElem late lateBound]
    exact before.le
  have path := (isLeast _ (List.getElem_mem lateBound)).1
  obtain ⟨fewer, atMost, shorter⟩ := order.exists_reachesIn_le path inOrder
  exact ((isLeast _ (List.getElem_mem earlyBound)).2 shorter).trans atMost

end DiscoveryOrder

end CargoDeps.Digraph
