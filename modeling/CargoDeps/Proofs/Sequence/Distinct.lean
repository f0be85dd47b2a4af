import CargoDeps.Sequence.Basic
import Mathlib.Data.List.Basic
import Mathlib.Data.List.Induction

namespace CargoDeps.Sequence

/-!
# Order of distinct items

To leave out repetitions of a list is to leave them out of its parts and then of the whole.  What is
kept stands in the order of first occurrences, be these told among values or among the items that
they are values of.
-/

variable {α : Type} [DecidableEq α]

/-- Of the items seen before, neither order nor repetition matters. -/
theorem fresh_congr
    {seen known : List α}
    (same : ∀ item, item ∈ seen ↔ item ∈ known)
    (items : List α) :
    fresh seen items = fresh known items := by
  induction items generalizing seen known with
  | nil =>
      rfl
  | cons item rest inductionHypothesis =>
      have sameBehind : ∀ other, other ∈ item :: seen ↔ other ∈ item :: known := by
        intro other
        rw [List.mem_cons, List.mem_cons, same]
      simp only [fresh, same item, inductionHypothesis same, inductionHypothesis sameBehind]

/-- Nothing is new if everything was seen before. -/
theorem fresh_of_subset
    {seen items : List α}
    (subset : items ⊆ seen) :
    fresh seen items = [] := by
  apply List.eq_nil_iff_forall_not_mem.mpr
  intro item member
  obtain ⟨listed, unseen⟩ := mem_fresh.mp member
  exact unseen (subset listed)

/-- Behind a list, what the list holds has been seen too. -/
theorem fresh_append
    (seen first second : List α) :
    fresh seen (first ++ second) = fresh seen first ++ fresh (first ++ seen) second := by
  induction first generalizing seen with
  | nil =>
      rfl
  | cons item rest inductionHypothesis =>
      by_cases known : item ∈ seen
      · have same : ∀ other, other ∈ rest ++ seen ↔ other ∈ item :: rest ++ seen := by
          intro other
          simp only [List.cons_append, List.mem_cons, List.mem_append]
          constructor
          · exact Or.inr
          · rintro (rfl | either)
            · exact Or.inr known
            · exact either
        simp only [List.cons_append, fresh, known, if_true, inductionHypothesis]
        rw [fresh_congr same, List.cons_append]
      · have same : ∀ other, other ∈ rest ++ item :: seen ↔ other ∈ item :: rest ++ seen := by
          intro other
          simp only [List.cons_append, List.mem_cons, List.mem_append]
          tauto
        simp only [List.cons_append, fresh, known, if_false, inductionHypothesis]
        rw [fresh_congr same, List.cons_append]

/-- Repetitions that were left out before do not count. -/
theorem fresh_fresh
    {seen hidden : List α}
    (subset : hidden ⊆ seen)
    (items : List α) :
    fresh seen (fresh hidden items) = fresh seen items := by
  induction items generalizing seen hidden with
  | nil =>
      rfl
  | cons item rest inductionHypothesis =>
      by_cases left : item ∈ hidden
      · simp only [fresh, left, subset left, if_true, inductionHypothesis subset]
      · by_cases known : item ∈ seen
        · have leftSeen : item :: hidden ⊆ seen :=
            List.cons_subset.mpr ⟨known, subset⟩
          simp only [fresh, left, known, if_true, if_false, inductionHypothesis leftSeen]
        · have leftSeen : item :: hidden ⊆ item :: seen :=
            List.cons_subset_cons item subset
          simp only [fresh, left, known, if_false, inductionHypothesis leftSeen]

theorem distinct_append
    (first second : List α) :
    distinct (first ++ second) = distinct first ++ fresh first second := by
  rw [distinct, fresh_append, List.append_nil, distinct]

/-- Lists put together have the same distinct items whether or not they repeat some. -/
theorem distinct_append_distinct
    (first second : List α) :
    distinct (distinct first ++ distinct second) = distinct (first ++ second) := by
  have sameSeen : fresh (distinct first) (distinct second) = fresh first (distinct second) :=
    fresh_congr (fun _ => mem_distinct) _
  rw [distinct_append, distinct_append, sameSeen]
  simp only [distinct, fresh_fresh (List.nil_subset _)]

theorem distinct_of_nodup
    {items : List α}
    (nodup : items.Nodup) :
    distinct items = items := by
  induction items using List.reverseRecOn with
  | nil =>
      rfl
  | append_singleton earlier item inductionHypothesis =>
      obtain ⟨earlierNodup, -, apart⟩ := List.nodup_append.mp nodup
      have unseen : item ∉ earlier := fun member => apart item member item (by simp) rfl
      rw [distinct_append, inductionHypothesis earlierNodup, fresh, if_neg unseen, fresh]

theorem ne_of_mem_fresh
    {seen items : List α}
    {item other : α}
    (known : item ∈ seen)
    (kept : other ∈ fresh seen items) :
    item ≠ other := by
  rintro rfl
  exact (mem_fresh.mp kept).2 known

/-- What is kept stands in the order of first occurrences. -/
theorem pairwise_idxOf_fresh
    (seen items : List α) :
    (fresh seen items).Pairwise fun first second =>
      items.idxOf first < items.idxOf second := by
  induction items generalizing seen with
  | nil =>
      exact .nil
  | cons item rest inductionHypothesis =>
      -- Behind the head, positions are counted from one further on.
      have behind :
          ∀ {known},
            item ∈ known →
            (fresh known rest).Pairwise fun first second =>
              (item :: rest).idxOf first < (item :: rest).idxOf second := by
        intro known isKnown
        refine (inductionHypothesis known).imp_of_mem ?_
        intro first second firstKept secondKept before
        rw [List.idxOf_cons_ne _ (ne_of_mem_fresh isKnown firstKept),
          List.idxOf_cons_ne _ (ne_of_mem_fresh isKnown secondKept)]
        exact Nat.succ_lt_succ before
      by_cases known : item ∈ seen
      · simp only [fresh, known, if_true]
        exact behind known
      · simp only [fresh, known, if_false]
        refine List.pairwise_cons.mpr ⟨?_, behind List.mem_cons_self⟩
        intro other otherKept
        rw [List.idxOf_cons_self,
          List.idxOf_cons_ne _ (ne_of_mem_fresh List.mem_cons_self otherKept)]
        exact Nat.succ_pos _

/-- Where a value comes before another among those of the accepted items, it has an accepted item
before the first one of the other. -/
theorem findIdx_lt_of_idxOf_lt
    {β : Type}
    {accepts : β → Bool}
    {valueOf : β → α}
    {items : List β}
    {first second : α}
    (before :
      ((items.filter accepts).map valueOf).idxOf first <
        ((items.filter accepts).map valueOf).idxOf second) :
    (items.findIdx fun item => accepts item && valueOf item = first) <
      items.findIdx fun item => accepts item && valueOf item = second := by
  induction items with
  | nil =>
      exact absurd before (Nat.lt_irrefl _)
  | cons item rest inductionHypothesis =>
      by_cases accepted : accepts item = true
      · simp only [List.filter_cons, accepted, if_true, List.map_cons] at before
        by_cases isSecond : valueOf item = second
        · rw [isSecond, List.idxOf_cons_self] at before
          exact absurd before (Nat.not_lt_zero _)
        · by_cases isFirst : valueOf item = first
          · simp [List.findIdx_cons, accepted, isFirst, isFirst ▸ isSecond]
          · rw [List.idxOf_cons_ne _ isFirst, List.idxOf_cons_ne _ isSecond] at before
            simpa [List.findIdx_cons, accepted, isFirst, isSecond] using
              inductionHypothesis (Nat.lt_of_succ_lt_succ before)
      · simp only [List.filter_cons, accepted, Bool.false_eq_true, if_false] at before
        simpa [List.findIdx_cons, accepted] using inductionHypothesis before

end CargoDeps.Sequence
