import Mathlib.Data.List.Forall2

namespace CargoDeps.Sequence

/-!
# Lists item by item

What follows of single items where two lists agree item by item, and where an item of a list is told
together with the items before it.
-/

variable {α β : Type}

theorem exists_of_mem_left
    {related : α → β → Prop}
    {lefts : List α}
    {rights : List β}
    (paired : List.Forall₂ related lefts rights)
    {left : α}
    (member : left ∈ lefts) :
    ∃ right ∈ rights, related left right := by
  obtain ⟨position, bound, rfl⟩ := List.mem_iff_getElem.mp member
  have rightBound : position < rights.length := paired.length_eq ▸ bound
  exact ⟨rights[position], List.getElem_mem rightBound, paired.get bound rightBound⟩

theorem exists_of_mem_right
    {related : α → β → Prop}
    {lefts : List α}
    {rights : List β}
    (paired : List.Forall₂ related lefts rights)
    {right : β}
    (member : right ∈ rights) :
    ∃ left ∈ lefts, related left right :=
  exists_of_mem_left paired.flip member

/-- A part of the right list agrees with a part of the left one. -/
theorem exists_sublist_left
    {related : α → β → Prop}
    {lefts : List α}
    {rights part : List β}
    (paired : List.Forall₂ related lefts rights)
    (isPart : part.Sublist rights) :
    ∃ kept : List α, kept.Sublist lefts ∧ List.Forall₂ related kept part := by
  induction paired generalizing part with
  | nil =>
      obtain rfl := List.sublist_nil.mp isPart
      exact ⟨[], .slnil, .nil⟩
  | @cons left _ _ _ here _ inductionHypothesis =>
      cases isPart with
      | cons _ later =>
          obtain ⟨kept, sublist, agrees⟩ := inductionHypothesis later
          exact ⟨kept, sublist.cons left, agrees⟩
      | cons_cons _ later =>
          obtain ⟨kept, sublist, agrees⟩ := inductionHypothesis later
          exact ⟨left :: kept, sublist.cons_cons left, .cons here agrees⟩

/-- Items at one position agree. -/
theorem exists_getElem?_left
    {related : α → β → Prop}
    {lefts : List α}
    {rights : List β}
    (paired : List.Forall₂ related lefts rights)
    {position : Nat}
    {right : β}
    (found : rights[position]? = some right) :
    ∃ left, lefts[position]? = some left ∧ related left right := by
  obtain ⟨bound, rfl⟩ := List.getElem?_eq_some_iff.mp found
  have leftBound : position < lefts.length := paired.length_eq ▸ bound
  exact ⟨lefts[position], List.getElem?_eq_getElem leftBound, paired.get leftBound bound⟩

/-- An item of a list has the items before it: none if it is the first, and else the first and those
before it in the rest. -/
theorem exists_cut_cons_iff
    {motive : List α → α → Prop}
    {first : α}
    {rest : List α} :
    (∃ before item after, first :: rest = before ++ item :: after ∧ motive before item) ↔
      motive [] first ∨
        ∃ before item after, rest = before ++ item :: after ∧ motive (first :: before) item := by
  constructor
  · intro cut
    obtain ⟨before, item, after, shape, holds⟩ := cut
    cases before with
    | nil =>
        obtain ⟨rfl, rfl⟩ := List.cons.inj shape
        exact Or.inl holds
    | cons other before =>
        obtain ⟨rfl, rfl⟩ := List.cons.inj shape
        exact Or.inr ⟨before, item, after, rfl, holds⟩
  · intro cut
    rcases cut with holds | ⟨before, item, after, rfl, holds⟩
    · exact ⟨[], first, rest, rfl, holds⟩
    · exact ⟨first :: before, item, after, rfl, holds⟩

end CargoDeps.Sequence
