import CargoDeps.Requirement
import Mathlib.Data.List.Induction

namespace CargoDeps.Requirement

/-!
# Clauses up to build identifiers

A requirement keeps one of the clauses that are alike, and of two lists of clauses put together it
keeps what the first list keeps and then what is new in the second.  Clauses that count build
identifiers just when their target has some are alike only if they are the same, so nothing is lost
among those.
-/

/-! ### Likeness -/

theorem Bound.alike_iff
    {first second : Bound} :
    first.alike second = true ↔
      first.relation = second.relation ∧
        first.target = second.target ∧
          first.admitsPrereleases = second.admitsPrereleases := by
  simp [Bound.alike, and_assoc]

namespace Clause

variable {first second third : Clause}

@[simp]
theorem alike_refl
    (clause : Clause) :
    clause.alike clause = true := by
  cases clause <;> simp [alike, Bound.alike_iff]

theorem alike_trans
    (left : first.alike second = true)
    (right : second.alike third = true) :
    first.alike third = true := by
  cases first <;> cases second <;> cases third <;>
    simp_all [alike, Bound.alike_iff]

end Clause

/-- A bound counts build identifiers just when its target has some. -/
def Bound.IsPlain (bound : Bound) : Prop :=
  bound.buildCounts = !bound.target.build.isEmpty

/-- All bounds of a clause are plain. -/
def Clause.IsPlain : Clause → Prop
  | .bound comparison => comparison.IsPlain
  | .either first second => first.IsPlain ∧ second.IsPlain

theorem Bound.eq_of_alike
    {first second : Bound}
    (plainFirst : first.IsPlain)
    (plainSecond : second.IsPlain)
    (alikeness : first.alike second = true) :
    first = second := by
  obtain ⟨relation, target, admitsPrereleases, buildCounts⟩ := first
  obtain ⟨sameRelation, sameTarget, sameAdmission⟩ := Bound.alike_iff.mp alikeness
  have sameCounting : buildCounts = second.buildCounts := by
    rw [show buildCounts = !target.build.isEmpty from plainFirst,
      show second.buildCounts = !second.target.build.isEmpty from plainSecond,
      show target = second.target from sameTarget]
  cases second
  simp_all

theorem Clause.eq_of_alike
    {first second : Clause}
    (plainFirst : first.IsPlain)
    (plainSecond : second.IsPlain)
    (alikeness : first.alike second = true) :
    first = second := by
  cases first with
  | bound bound =>
      cases second with
      | bound other =>
          exact congrArg Clause.bound (Bound.eq_of_alike plainFirst plainSecond alikeness)
      | either left right =>
          cases alikeness
  | either left right =>
      cases second with
      | bound other =>
          cases alikeness
      | either otherLeft otherRight =>
          obtain ⟨alikeLeft, alikeRight⟩ := Bool.and_eq_true_iff.mp alikeness
          rw [Bound.eq_of_alike plainFirst.1 plainSecond.1 alikeLeft,
            Bound.eq_of_alike plainFirst.2 plainSecond.2 alikeRight]

/-! ### One of the clauses that are alike -/

/-- The clauses that are alike to none of the known ones. -/
def news (known clauses : List Clause) : List Clause :=
  clauses.filter fun clause => !known.any clause.alike

theorem withoutAlike_concat
    (clauses : List Clause)
    (clause : Clause) :
    withoutAlike (clauses ++ [clause]) =
      if (withoutAlike clauses).any clause.alike then
        withoutAlike clauses
      else
        withoutAlike clauses ++ [clause] := by
  rw [withoutAlike, List.foldl_append]
  rfl

/-- A clause that is alike to no known one is alike to one of the others just when it is alike to a
new one of them. -/
theorem any_alike_news
    {known : List Clause}
    {clause : Clause}
    (isNew : known.any clause.alike = false)
    (clauses : List Clause) :
    (news known clauses).any clause.alike = clauses.any clause.alike := by
  rw [List.any_eq_false] at isNew
  rw [Bool.eq_iff_iff, List.any_eq_true, List.any_eq_true]
  constructor
  · rintro ⟨other, member, alikeness⟩
    exact ⟨other, (List.mem_filter.mp member).1, alikeness⟩
  · rintro ⟨other, member, alikeness⟩
    refine ⟨other, List.mem_filter.mpr ⟨member, ?_⟩, alikeness⟩
    rw [Bool.not_eq_true', List.any_eq_false]
    intro earlier isKnown alikeEarlier
    exact isNew earlier isKnown (Clause.alike_trans alikeness alikeEarlier)

/-- Of two lists put together, what the first keeps stays, and then what is new in the second. -/
theorem withoutAlike_append
    (first second : List Clause) :
    withoutAlike (first ++ second) =
      withoutAlike first ++ news (withoutAlike first) (withoutAlike second) := by
  induction second using List.reverseRecOn with
  | nil =>
      simp [news, withoutAlike]
  | append_singleton rest clause inductionHypothesis =>
      rw [← List.append_assoc, withoutAlike_concat, withoutAlike_concat, inductionHypothesis,
        List.any_append]
      cases isKnown : (withoutAlike first).any clause.alike with
      | true =>
          cases isRepeated : (withoutAlike rest).any clause.alike <;>
            simp [news, isKnown]
      | false =>
          rw [any_alike_news isKnown, Bool.false_or]
          cases isRepeated : (withoutAlike rest).any clause.alike <;>
            simp [news, isKnown]

theorem withoutAlike_subset
    (clauses : List Clause) :
    withoutAlike clauses ⊆ clauses := by
  induction clauses using List.reverseRecOn with
  | nil =>
      exact List.Subset.refl []
  | append_singleton rest last inductionHypothesis =>
      rw [withoutAlike_concat]
      split
      · exact List.subset_append_of_subset_left _ inductionHypothesis
      · exact List.append_subset.mpr
          ⟨List.subset_append_of_subset_left _ inductionHypothesis, List.subset_append_right _ _⟩

theorem exists_alike_mem_withoutAlike
    {clauses : List Clause}
    {clause : Clause}
    (member : clause ∈ clauses) :
    ∃ kept ∈ withoutAlike clauses, clause.alike kept = true := by
  obtain ⟨before, after, rfl⟩ := List.mem_iff_append.mp member
  rw [List.append_cons, withoutAlike_append, withoutAlike_concat]
  split
  · next isRepeated =>
      obtain ⟨kept, isKept, alikeness⟩ := List.any_eq_true.mp isRepeated
      exact ⟨kept, List.mem_append_left _ isKept, alikeness⟩
  · exact ⟨clause, by simp, Clause.alike_refl clause⟩

/-- Among plain clauses only repetitions are left out. -/
theorem mem_withoutAlike_iff
    {clauses : List Clause}
    (plain : ∀ clause ∈ clauses, clause.IsPlain)
    {clause : Clause} :
    clause ∈ withoutAlike clauses ↔ clause ∈ clauses := by
  constructor
  · exact fun isKept => withoutAlike_subset clauses isKept
  · intro member
    obtain ⟨kept, isKept, alikeness⟩ := exists_alike_mem_withoutAlike member
    have keptPlain : kept.IsPlain := plain kept (withoutAlike_subset clauses isKept)
    rw [Clause.eq_of_alike (plain clause member) keptPlain alikeness]
    exact isKept

end CargoDeps.Requirement
